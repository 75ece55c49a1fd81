/-!
Values of a TOML document. A table remembers how it came to be, because that decides whether a
later line may still add to it.
-/

namespace DurableMqtt.Toml

inductive Origin where
  /-- By its own header. The root counts as such a table. -/
  | header
  /-- As a parent in the header of another table. -/
  | implied
  /-- As a parent in a dotted key. -/
  | dotted
  /-- In braces, where it is complete. -/
  | inline
deriving DecidableEq, Inhabited

structure Entry (ν : Type) where
  key : String
  value : ν

structure Table (ν : Type) where
  origin : Origin
  entries : List (Entry ν) := []

namespace Table

variable {ν : Type}

def get? (t : Table ν) (key : String) : Option ν :=
  (t.entries.find? (·.key == key)).map (·.value)

def set (t : Table ν) (key : String) (value : ν) : Table ν :=
  if t.entries.any (·.key == key) then
    { t with entries := t.entries.map fun e => if e.key == key then ⟨key, value⟩ else e }
  else { t with entries := t.entries ++ [⟨key, value⟩] }

end Table

inductive FloatLiteral where
  /-- The number `mantissa * 10 ^ exponent`. -/
  | finite (negative : Bool) (mantissa : Nat) (exponent : Int)
  | infinite (negative : Bool)
  | nan
deriving DecidableEq, Inhabited

inductive Value where
  | string (text : String)
  | integer (n : Int)
  | float (literal : FloatLiteral)
  | boolean (b : Bool)
  /-- A date, a time or both, as written. -/
  | moment (text : String)
  | array (items : List Value)
  | table (table : Table Value)
  /-- The tables collected under a header in double brackets. -/
  | rows (tables : List (Table Value))

instance : Inhabited Value := ⟨.boolean false⟩

end DurableMqtt.Toml
