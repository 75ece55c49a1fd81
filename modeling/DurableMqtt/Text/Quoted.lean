import DurableMqtt.Text.Printable

/-!
Text in double quotes, with everything that would not show as itself written as an escape.
-/

namespace DurableMqtt.Text

def hexadecimal (n : Nat) : String :=
  String.ofList (Nat.toDigits 16 n)

def codePointEscape (c : Char) : String :=
  "\\u\x7b" ++ hexadecimal c.toNat ++ "\x7d"

def escapeChar : Char → String
  | '\x00' => "\\0"
  | '\t' => "\\t"
  | '\r' => "\\r"
  | '\n' => "\\n"
  | '"' => "\\\""
  | '\\' => "\\\\"
  | c =>
    if extendsGrapheme c then codePointEscape c
    else if isPrintable c then String.singleton c
    else codePointEscape c

/-- The text in quotes. No two texts share a quoted form. -/
def quoted (text : String) : String :=
  "\"" ++ String.join (text.toList.map escapeChar) ++ "\""

def bracketed (items : List String) : String :=
  "[" ++ ", ".intercalate items ++ "]"

/-- One field of a record shown as `Name \x7b field: value, .. \x7d`. -/
structure ShownField where
  name : String
  value : String

def record (name : String) (fields : List ShownField) : String :=
  if fields.isEmpty then name
  else
    name ++ " \x7b " ++ ", ".intercalate (fields.map fun f => f.name ++ ": " ++ f.value) ++ " \x7d"

end DurableMqtt.Text
