import DurableMqtt.Decimal.Binary
import DurableMqtt.Toml.Quotation
import DurableMqtt.Toml.Value

/-!
Numbers. Integers have 64 bits with a sign. A floating-point number may be any decimal that does
not round to positive infinity; how it would be rounded is left open.
-/

namespace DurableMqtt.Toml

def digitGroup (isDigit : Char → Bool) : Reader (List Char) := do
  let first ← Reader.satisfying isDigit
  let others ← Reader.many do
    let _ ← Reader.optional (Reader.char '_')
    Reader.satisfying isDigit
  pure (first :: others)

def sign : Reader Bool := do
  match ← Reader.optional (Reader.satisfying fun c => c == '+' || c == '-') with
  | some '-' => pure true
  | _ => pure false

def wholePart : Reader (List Char) :=
  (do Reader.char '0'; pure ['0']) <|> digitGroup isDecimalDigit

def integerWithin (n : Int) : Reader Int :=
  if Int64.minValue.toInt ≤ n ∧ n ≤ Int64.maxValue.toInt then pure n else failure

def radixInteger (marker : String) (base : Nat) (isDigit : Char → Bool) : Reader Int := do
  Reader.word marker
  let digits ← digitGroup isDigit
  integerWithin (numeral base digits)

def decimalInteger : Reader Int := do
  let negative ← sign
  let magnitude := numeral 10 (← wholePart)
  integerWithin (if negative then -magnitude else magnitude)

def integer : Reader Int :=
  radixInteger "0x" 16 isHexadecimalDigit
    <|> radixInteger "0o" 8 (fun c => '0' ≤ c && c ≤ '7')
    <|> radixInteger "0b" 2 (fun c => c == '0' || c == '1')
    <|> decimalInteger

/-- Whether a decimal is at least half a unit in the last place above the largest 64-bit
floating-point number. Decimals that are far from it are told by their number of digits. -/
def exceedsFloat (mantissa : Nat) (exponent : Int) : Bool :=
  let places : Int := (Nat.toDigits 10 mantissa).length + exponent
  if mantissa = 0 ∨ places < 309 then false
  else if 310 < places then true
  else
    let bound := Decimal.wholePower 2 1024 - Decimal.wholePower 2 970
    bound * Decimal.wholePower 10 (-exponent) ≤ mantissa * Decimal.wholePower 10 exponent

def fraction : Reader (List Char) := do
  Reader.char '.'
  digitGroup isDecimalDigit

def exponent : Reader Int := do
  let _ ← Reader.satisfying fun c => c == 'e' || c == 'E'
  let negative ← sign
  let magnitude := numeral 10 (← digitGroup isDecimalDigit)
  pure (if negative then -magnitude else magnitude)

def finiteFloat : Reader FloatLiteral := do
  let negative ← sign
  let whole ← wholePart
  let decimals ← Reader.optional fraction
  let power ← if decimals.isSome then Reader.optional exponent else some <$> exponent
  let mantissa := numeral 10 (whole ++ decimals.getD [])
  let power := power.getD 0 - (decimals.getD []).length
  if !negative && exceedsFloat mantissa power then failure
  else pure (.finite negative mantissa power)

def specialFloat : Reader FloatLiteral := do
  let negative ← sign
  (do Reader.word "inf"; pure (.infinite negative)) <|> (do Reader.word "nan"; pure .nan)

def float : Reader FloatLiteral := finiteFloat <|> specialFloat

end DurableMqtt.Toml
