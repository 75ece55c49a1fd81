/-!
Binary floating-point numbers as exact fractions: a mantissa times a power of two.
-/

namespace DurableMqtt.Decimal

/-- The whole part of a power; 1 for a negative exponent. -/
def wholePower (base : Nat) (exponent : Int) : Nat := Nat.pow base exponent.toNat

inductive Binary where
  | nan
  | infinite (negative : Bool)
  /-- The number `mantissa * 2 ^ exponent`, with a sign that zero has too. -/
  | finite (negative : Bool) (mantissa : Nat) (exponent : Int)
deriving DecidableEq

namespace Binary

/-- The leading bit of most mantissas, which is not written: 2^52. -/
def hiddenBit : Nat := 4503599627370496

/-- Reads the 64 bits of a number: a sign, 11 bits of exponent and 52 of fraction. -/
def ofBits (bits : UInt64) : Binary :=
  let n := bits.toNat
  let negative := n.testBit 63
  let exponent : Nat := n / hiddenBit % 2048
  let fraction := n % hiddenBit
  if exponent = 2047 then if fraction = 0 then infinite negative else nan
  else if exponent = 0 then finite negative fraction (-1074)
  else finite negative (hiddenBit + fraction) (Int.ofNat exponent - 1075)

def ofFloat (x : Float) : Binary := ofBits x.toBits

def roundHalfEven (numerator denominator : Nat) : Nat :=
  let whole := numerator / denominator
  let twice := 2 * (numerator % denominator)
  if twice < denominator then whole
  else if denominator < twice then whole + 1
  else if whole % 2 = 0 then whole else whole + 1

def scaled (factor mantissa : Nat) (exponent : Int) : Nat :=
  roundHalfEven (factor * mantissa * wholePower 2 exponent) (wholePower 2 (-exponent))

end Binary

end DurableMqtt.Decimal
