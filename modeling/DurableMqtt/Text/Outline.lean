import DurableMqtt.Text.Quoted

/-!
Records spread over several lines, each field on its own and the parts of a field indented under
it.
-/

namespace DurableMqtt.Text

structure Outline where
  first : String
  rest : List String := []
deriving Inhabited

namespace Outline

def plain (text : String) : Outline := { first := text }

def lines (o : Outline) : List String := o.first :: o.rest

def labelled (name : String) (o : Outline) : Outline := { o with first := name ++ ": " ++ o.first }

/-- The lines of one part of a larger whole: further in, and with a comma at the end. -/
def part (o : Outline) : List String :=
  let indented := o.lines.map ("    " ++ ·)
  indented.dropLast ++ [indented.getLastD "" ++ ","]

def record (name : String) (fields : List (String × Outline)) : Outline where
  first := name ++ " \x7b"
  rest := (fields.map fun (label, o) => (o.labelled label).part).flatten ++ ["\x7d"]

def list (items : List Outline) : Outline :=
  if items.isEmpty then plain "[]" else { first := "[", rest := (items.map part).flatten ++ ["]"] }

def optional : Option Outline → Outline
  | none => plain "None"
  | some o => { first := "Some(", rest := o.part ++ [")"] }

def text (o : Outline) : String := "\n".intercalate o.lines

end Outline

end DurableMqtt.Text
