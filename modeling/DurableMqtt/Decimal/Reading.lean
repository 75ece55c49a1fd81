/-!
Decimal text as a floating-point number.
-/

namespace DurableMqtt.Decimal

def takeSign : List Char → Bool × List Char
  | '-' :: rest => (true, rest)
  | '+' :: rest => (false, rest)
  | rest => (false, rest)

/-- A decimal with an optional fraction and an optional power of ten, rounded to the nearest
floating-point number. Zero has a sign. Powers of ten are cut off far beyond the largest number
and far below the smallest. -/
def ofText? (text : String) : Option Float := do
  let (negative, cs) := takeSign text.toList
  let number ← match String.ofList cs with
    | "nan" | "NaN" => some (0.0 / 0.0)
    | "inf" => some (1.0 / 0.0)
    | _ =>
      let whole := cs.takeWhile Char.isDigit
      let rest := cs.dropWhile Char.isDigit
      let decimals := if rest.head? = some '.' then (rest.drop 1).takeWhile Char.isDigit else []
      let rest := if rest.head? = some '.' then (rest.drop 1).dropWhile Char.isDigit else rest
      let digits ← (String.ofList (whole ++ decimals)).toNat?
      let power ← match rest with
        | [] => some 0
        | e :: power =>
          let (down, power) := takeSign power
          if e = 'e' ∨ e = 'E' then do
            let n ← (String.ofList power).toNat?
            some (if down then -(n : Int) else n)
          else none
      let exponent : Int := max (-5000) (min 5000 (power - decimals.length))
      some (OfScientific.ofScientific digits (exponent < 0) exponent.natAbs)
  some (if negative then -number else number)

end DurableMqtt.Decimal
