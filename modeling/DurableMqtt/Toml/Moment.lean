import DurableMqtt.Toml.Quotation

/-!
Dates and times. They are checked and then kept as written.
-/

namespace DurableMqtt.Toml

def isLeapYear (year : Nat) : Bool := year % 4 == 0 && (year % 100 != 0 || year % 400 == 0)

def daysInMonth (year month : Nat) : Nat :=
  if month = 2 then if isLeapYear year then 29 else 28
  else if month ∈ [4, 6, 9, 11] then 30
  else 31

def fixedNumber (width least most : Nat) : Reader (List Char) := do
  let digits ← (List.range width).mapM fun _ => Reader.satisfying isDecimalDigit
  let n := numeral 10 digits
  if least ≤ n && n ≤ most then pure digits else failure

def date : Reader (List Char) := do
  let year ← fixedNumber 4 0 9999
  Reader.char '-'
  let month ← fixedNumber 2 1 12
  Reader.char '-'
  let day ← fixedNumber 2 1 (daysInMonth (numeral 10 year) (numeral 10 month))
  pure (year ++ ['-'] ++ month ++ ['-'] ++ day)

def secondFraction : Reader (List Char) := do
  Reader.char '.'
  let digits ← Reader.span1 isDecimalDigit
  pure ('.' :: digits)

/-- A time of day. A minute may have a leap second. -/
def timeOfDay : Reader (List Char) := do
  let hour ← fixedNumber 2 0 23
  Reader.char ':'
  let minute ← fixedNumber 2 0 59
  Reader.char ':'
  let second ← fixedNumber 2 0 60
  let decimals ← Reader.optional secondFraction
  pure (hour ++ [':'] ++ minute ++ [':'] ++ second ++ decimals.getD [])

def offset : Reader (List Char) :=
  (do pure [← Reader.satisfying fun c => c == 'Z' || c == 'z'])
    <|> do
      let direction ← Reader.satisfying fun c => c == '+' || c == '-'
      let hour ← fixedNumber 2 0 23
      Reader.char ':'
      let minute ← fixedNumber 2 0 59
      pure (direction :: (hour ++ [':'] ++ minute))

def timeAfterDate : Reader (List Char) := do
  let separator ← Reader.satisfying fun c => c == 'T' || c == 't' || c == ' '
  let time ← timeOfDay
  let shift ← Reader.optional offset
  pure (separator :: (time ++ shift.getD []))

def moment : Reader String :=
  (do
    let day ← date
    let time ← Reader.optional timeAfterDate
    pure (String.ofList (day ++ time.getD [])))
    <|> (do pure (String.ofList (← timeOfDay)))

end DurableMqtt.Toml
