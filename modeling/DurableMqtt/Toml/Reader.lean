/-!
Readers take what they can from the front of a text and leave the rest, or refuse the text.
-/

namespace DurableMqtt.Toml

abbrev Reader : Type → Type := StateT (List Char) Option

namespace Reader

variable {α : Type}

def satisfying (accepts : Char → Bool) : Reader Char
  | c :: rest => if accepts c then some (c, rest) else none
  | [] => none

def char (c : Char) : Reader Unit := do
  let _ ← satisfying (· == c)

def word (text : String) : Reader Unit := text.toList.forM char

def span (accepts : Char → Bool) : Reader (List Char) := fun cs =>
  some (cs.takeWhile accepts, cs.dropWhile accepts)

def span1 (accepts : Char → Bool) : Reader (List Char) := do
  let cs ← span accepts
  if cs.isEmpty then failure else pure cs

def optional (r : Reader α) : Reader (Option α) := some <$> r <|> pure none

def ending : Reader Unit
  | [] => some ((), [])
  | _ :: _ => none

/-- Reads again and again until the reader refuses or takes nothing. -/
def many (r : Reader α) : Reader (List α) := fun cs =>
  match r cs with
  | none => some ([], cs)
  | some (a, rest) =>
    if rest.length < cs.length then
      (many r rest).map fun (items, rest) => (a :: items, rest)
    else some ([], cs)
termination_by cs => cs.length

def separated (separator : Reader Unit) (r : Reader α) : Reader (List α) := do
  let first ← r
  let others ← many (separator *> r)
  pure (first :: others)

def run (r : Reader α) (text : String) : Option α := (r <* ending) text.toList |>.map (·.1)

end Reader

def blanks : Reader Unit := do
  let _ ← Reader.span fun c => c == ' ' || c == '\t'

/-- A line ends with a line feed, which a carriage return may precede. -/
def lineBreak : Reader Unit := Reader.char '\n' <|> Reader.word "\r\n"

/-- Characters that a text may hold anywhere: tabs, and all but the control characters. -/
def isPlain (c : Char) : Bool := c == '\t' || (0x20 ≤ c.toNat && c.toNat != 0x7F)

def comment : Reader Unit := do
  Reader.char '#'
  let _ ← Reader.span isPlain

def lineEnd : Reader Unit := do
  blanks
  let _ ← Reader.optional comment
  lineBreak <|> Reader.ending

def spacing : Reader Unit := do
  blanks
  let _ ← Reader.many do
    let _ ← Reader.optional comment
    lineBreak
    blanks

end DurableMqtt.Toml
