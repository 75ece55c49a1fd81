import DurableMqtt.Toml.Value

/-!
Reading records out of values. A record is written as a table with its fields by name, or as an
array with its fields in order. Fields that the record does not have are passed over.
-/

namespace DurableMqtt.Toml

inductive Fields where
  | named (table : Table Value)
  | listed (items : List Value)

namespace Value

/-- A moment stands for a record of which no field is given. -/
def fields? : Value → Option Fields
  | table t => some (.named t)
  | moment _ => some (.named { origin := .inline })
  | array items => some (.listed items)
  | rows tables => some (.listed (tables.map .table))
  | _ => none

def text? : Value → Option String
  | string text => some text
  | _ => none

def flag? : Value → Option Bool
  | boolean b => some b
  | _ => none

def integer? : Value → Option Int
  | integer n => some n
  | _ => none

def natural? (limit : Nat) (v : Value) : Option Nat := do
  let n ← v.integer?
  if 0 ≤ n ∧ n < limit then some n.toNat else none

def list? : Value → Option (List Value)
  | array items => some items
  | rows tables => some (tables.map .table)
  | _ => none

/-- Whether a value holds nothing, as the one after the name of a choice must. -/
def isVoid : Value → Bool
  | array items => items.isEmpty
  | table t => t.entries.isEmpty
  | _ => false

def choice? {α : Type} (choices : List (String × α)) : Value → Option α
  | string name => choices.lookup name
  | table ⟨_, [⟨name, v⟩]⟩ => if v.isVoid then choices.lookup name else none
  | _ => none

end Value

namespace Fields

variable {α : Type}

def get? (fields : Fields) (position : Nat) (name : String) : Option Value :=
  match fields with
  | named t => t.get? name
  | listed items => items[position]?

def required? (fields : Fields) (position : Nat) (name : String) (read : Value → Option α) :
    Option α := do
  read (← fields.get? position name)

/-- A field that has a value of its own when it is not given. A field that is given must be
readable. -/
def read? (fields : Fields) (position : Nat) (name : String) (absent : α)
    (read : Value → Option α) : Option α :=
  match fields.get? position name with
  | none => some absent
  | some v => read v

end Fields

end DurableMqtt.Toml
