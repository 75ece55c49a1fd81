import DurableMqtt.Decimal.Binary

/-!
The shortest decimal text of a number: the fewest digits that still read back as the same
number, and among those the ones nearest to it, without an exponent.

A decimal reads back when it lies among the reals that round to the number. These reach half
way to the neighbour on either side, the ends included when the mantissa is even. The coarsest
decimal grid that has a point among them gives the fewest digits.
-/

namespace DurableMqtt.Decimal

/-- A number `mantissa * 2 ^ exponent` with the reals that round to it, all in quarters of the
distance between neighbours. -/
structure Rounding where
  low : Nat
  value : Nat
  high : Nat
  /-- Whether the ends belong to it. -/
  closed : Bool
  exponent : Int

/-- Just above a power of two the neighbour below is at half the distance. -/
def Rounding.of (mantissa : Nat) (exponent : Int) : Rounding where
  low := 4 * mantissa - if mantissa = Binary.hiddenBit ∧ -1074 < exponent then 1 else 2
  value := 4 * mantissa
  high := 4 * mantissa + 2
  closed := mantissa % 2 == 0
  exponent := exponent - 2

/-- The point of the grid `10 ^ place` that reads back and is nearest, counted in grid steps. -/
def Rounding.gridPoint? (r : Rounding) (place : Int) : Option Nat :=
  let step := wholePower 10 place * wholePower 2 (-r.exponent)
  let unit := wholePower 2 r.exponent * wholePower 10 (-place)
  let readsBack (n : Nat) : Bool :=
    if r.closed then r.low * unit ≤ n * step && n * step ≤ r.high * unit
    else r.low * unit < n * step && n * step < r.high * unit
  let below := r.value * unit / step
  let above := below + 1
  match below != 0 && readsBack below, readsBack above with
  | false, false => none
  | true, false => some below
  | false, true => some above
  | true, true =>
    if r.value * unit - below * step ≤ above * step - r.value * unit then some below
    else some above

def Rounding.search (r : Rounding) : Nat → Int → Nat × Int
  | 0, place => (0, place)
  | fuel + 1, place =>
    match r.gridPoint? place with
    | some n => (n, place)
    | none => search r fuel (place - 1)

/-- Digits and the place of the last one. All numbers lie below `10 ^ 309`, and 17 digits
always read back, so 660 grids are more than enough. -/
def shortestDigits (mantissa : Nat) (exponent : Int) : Nat × Int :=
  if mantissa = 0 then (0, 0) else (Rounding.of mantissa exponent).search 660 309

def positional (digits : Nat) (place : Int) : String :=
  let text := toString digits
  if 0 ≤ place then text ++ String.ofList (List.replicate place.toNat '0')
  else
    let places := (-place).toNat
    let padded := List.replicate (places + 1 - text.length) '0' ++ text.toList
    let whole := padded.length - places
    String.ofList (padded.take whole ++ '.' :: padded.drop whole)

def Binary.text : Binary → String
  | nan => "NaN"
  | infinite negative => if negative then "-inf" else "inf"
  | finite negative mantissa exponent =>
    let (digits, place) := shortestDigits mantissa exponent
    let text := if digits = 0 then "0" else positional digits place
    if negative then "-" ++ text else text

def text (x : Float) : String := (Binary.ofFloat x).text

end DurableMqtt.Decimal
