import DurableMqtt.Toml.Reader

/-!
Quoted text. Double quotes allow escapes, single quotes take everything literally, and three
quotes of either kind enclose text of several lines.
-/

namespace DurableMqtt.Toml

def isDecimalDigit (c : Char) : Bool := '0' ≤ c && c ≤ '9'

def digitValue (c : Char) : Nat :=
  if isDecimalDigit c then c.toNat - '0'.toNat
  else if 'a' ≤ c && c ≤ 'f' then c.toNat - 'a'.toNat + 10
  else c.toNat - 'A'.toNat + 10

def isHexadecimalDigit (c : Char) : Bool :=
  isDecimalDigit c || ('a' ≤ c && c ≤ 'f') || ('A' ≤ c && c ≤ 'F')

def numeral (base : Nat) (digits : List Char) : Nat :=
  digits.foldl (fun n c => base * n + digitValue c) 0

/-- A character named by that many hexadecimal digits. Halves of surrogate pairs name none. -/
def codePoint (width : Nat) : Reader Char := do
  let digits ← (List.range width).mapM fun _ => Reader.satisfying isHexadecimalDigit
  let n := numeral 16 digits
  if n.isValidChar then pure (Char.ofNat n) else failure

def escape : Reader Char := do
  Reader.char '\\'
  match ← Reader.satisfying fun _ => true with
  | 'b' => pure '\x08'
  | 't' => pure '\t'
  | 'n' => pure '\n'
  | 'f' => pure '\x0c'
  | 'r' => pure '\r'
  | '"' => pure '"'
  | '\\' => pure '\\'
  | 'u' => codePoint 4
  | 'U' => codePoint 8
  | _ => failure

/-- A backslash at the end of a line hides the blank space up to the next text. -/
def continuation : Reader (List Char) := do
  Reader.char '\\'
  blanks
  lineBreak
  let _ ← Reader.many (lineBreak <|> (do let _ ← Reader.satisfying fun c => c == ' ' || c == '\t'))
  pure []

inductive QuoteStyle where
  | escaped
  | literal
deriving DecidableEq

namespace QuoteStyle

def mark : QuoteStyle → Char
  | escaped => '"'
  | literal => '\''

def stretch (s : QuoteStyle) : Reader (List Char) :=
  match s with
  | escaped => Reader.span1 (fun c => isPlain c && c != '"' && c != '\\') <|> (do pure [← escape])
  | literal => Reader.span1 fun c => isPlain c && c != '\''

def line (s : QuoteStyle) : Reader String := do
  Reader.char s.mark
  let stretches ← Reader.many s.stretch
  Reader.char s.mark
  pure (String.ofList stretches.flatten)

def fewQuotes (s : QuoteStyle) : Reader (List Char) := do
  let quotes ← Reader.span1 (· == s.mark)
  if quotes.length < 3 then pure quotes else failure

/-- The last three quotes of a run end the text. Up to two before them belong to it. -/
def closing (s : QuoteStyle) : Reader (List Char) := do
  let quotes ← Reader.span (· == s.mark)
  if 3 ≤ quotes.length && quotes.length ≤ 5 then pure (quotes.drop 3) else failure

def paragraphStretch (s : QuoteStyle) : Reader (List Char) :=
  (do lineBreak; pure ['\n'])
    <|> (if s = escaped then continuation else failure)
    <|> s.stretch
    <|> s.fewQuotes

/-- Text of several lines. A line break right after the opening quotes is not part of it. -/
def paragraph (s : QuoteStyle) : Reader String := do
  for _ in [1, 2, 3] do Reader.char s.mark
  let _ ← Reader.optional lineBreak
  let stretches ← Reader.many s.paragraphStretch
  let last ← s.closing
  pure (String.ofList (stretches.flatten ++ last))

end QuoteStyle

def quotation : Reader String :=
  QuoteStyle.escaped.paragraph <|> QuoteStyle.escaped.line
    <|> QuoteStyle.literal.paragraph <|> QuoteStyle.literal.line

end DurableMqtt.Toml
