import DurableMqtt.Toml.Moment
import DurableMqtt.Toml.Number

/-!
Whole documents. A document is a sequence of statements, each of which opens a table or gives a
key its value. The statements are read first and carried out afterwards.

A table may be opened once, a key may be given once, and what stands in braces or was written
with dotted keys is closed to headers. Nesting is limited.
-/

namespace DurableMqtt.Toml

namespace Origin

def admits (byDottedKey : Bool) : Origin → Bool
  | header => !byDottedKey
  | implied | dotted => true
  | inline => false

end Origin

namespace Table

/-- Applies a change to the table at the end of a path. Tables missing on the way are made, and
of the tables collected under one header the last counts. -/
def changeAt (byDottedKey : Bool) (change : Table Value → Option (Table Value)) :
    List String → Table Value → Option (Table Value)
  | [], t => change t
  | key :: path, t =>
    let within (child : Table Value) := changeAt byDottedKey change path child
    match t.get? key with
    | none => do
      let child ← within { origin := if byDottedKey then .dotted else .implied }
      some (t.set key (.table child))
    | some (.table child) =>
      if child.origin.admits byDottedKey then do
        some (t.set key (.table (← within child)))
      else none
    | some (.rows tables) => do
      let last ← tables.getLast?
      some (t.set key (.rows (tables.dropLast ++ [← within last])))
    | some _ => none

/-- Gives the key at the end of a path its value. A key with dots belongs to a table that was
made by such keys only. -/
def assign (path : List String) (key : String) (value : Value) :
    Table Value → Option (Table Value) :=
  changeAt true
    (fun t =>
      if (t.origin == .dotted) == path.isEmpty || (t.get? key).isSome then none
      else some (t.set key value))
    path

def openTable (path : List String) (key : String) : Table Value → Option (Table Value) :=
  changeAt false
    (fun t =>
      match t.get? key with
      | none => some (t.set key (.table { origin := .header }))
      | some (.table child) =>
        if child.origin = .implied then some (t.set key (.table { child with origin := .header }))
        else none
      | some _ => none)
    path

def openRow (path : List String) (key : String) : Table Value → Option (Table Value) :=
  changeAt false
    (fun t =>
      match t.get? key with
      | none => some (t.set key (.rows [{ origin := .header }]))
      | some (.rows tables) => some (t.set key (.rows (tables ++ [{ origin := .header }])))
      | some _ => none)
    path

end Table

structure Key where
  path : List String
  last : String

/-- A key may have fewer parts than this, and values fewer levels. -/
def nestingLimit : Nat := 80

def bareKey : Reader String := do
  let cs ← Reader.span1 fun c => c.isAlphanum || c == '_' || c == '-'
  pure (String.ofList cs)

def key : Reader Key := do
  let parts ← Reader.separated (Reader.char '.') do
    blanks
    let part ← QuoteStyle.escaped.line <|> QuoteStyle.literal.line <|> bareKey
    blanks
    pure part
  match parts.getLast? with
  | some last => if parts.length < nestingLimit then pure ⟨parts.dropLast, last⟩ else failure
  | none => failure

def boolean : Reader Bool :=
  (do Reader.word "true"; pure true) <|> (do Reader.word "false"; pure false)

def scalar : Reader Value :=
  .string <$> quotation <|> .moment <$> moment <|> .float <$> float <|> .integer <$> integer
    <|> .boolean <$> boolean

def array (value : Reader Value) : Reader (List Value) := do
  Reader.char '['
  let items ← Reader.optional (Reader.separated (Reader.char ',') (spacing *> value <* spacing))
  if items.isSome then let _ ← Reader.optional (Reader.char ',')
  spacing
  Reader.char ']'
  pure (items.getD [])

def pair (value : Reader Value) : Reader (Key × Value) := do
  let k ← key
  Reader.char '='
  blanks
  pure (k, ← value)

def inlineTable (value : Reader Value) : Reader (Table Value) := do
  Reader.char '\x7b'
  let pairs ← Reader.optional (Reader.separated (Reader.char ',') (pair value <* blanks))
  blanks
  Reader.char '\x7d'
  let table := (pairs.getD []).foldlM (fun t (k, v) => t.assign k.path k.last v)
    { origin := .inline }
  match table with
  | some t => pure t
  | none => failure

def value : Nat → Reader Value
  | 0 => scalar
  | depth + 1 =>
    scalar <|> .array <$> array (value depth) <|> .table <$> inlineTable (value depth)

inductive Statement where
  | openTable (key : Key)
  | openRow (key : Key)
  | assign (key : Key) (value : Value)

def statement : Reader Statement :=
  (do Reader.word "[["; let k ← key; Reader.word "]]"; pure (.openRow k))
    <|> (do Reader.char '['; let k ← key; Reader.char ']'; pure (.openTable k))
    <|> (do let (k, v) ← pair (value (nestingLimit - 1)); pure (.assign k v))

/-- All statements of a document. A byte order mark may precede them. -/
def statements : Reader (List Statement) := do
  let _ ← Reader.optional (Reader.char '\ufeff')
  let lines ← Reader.many do
    blanks
    let line ← Reader.optional statement
    lineEnd
    pure line
  pure (lines.filterMap id)

structure Document where
  root : Table Value := { origin := .header }
  opened : List String := []

def Document.apply (d : Document) : Statement → Option Document
  | .openTable k => do some ⟨← d.root.openTable k.path k.last, k.path ++ [k.last]⟩
  | .openRow k => do some ⟨← d.root.openRow k.path k.last, k.path ++ [k.last]⟩
  | .assign k v => do
    some { d with root := ← d.root.changeAt false (·.assign k.path k.last v) d.opened }

def read? (text : String) : Option (Table Value) := do
  let document ← (← statements.run text).foldlM Document.apply {}
  some document.root

end DurableMqtt.Toml
