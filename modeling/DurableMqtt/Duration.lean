/-!
Spans of time, counted in nanoseconds and bounded by the largest span that a 64-bit count of
seconds can hold. Arithmetic that would pass the bound stops there.
-/

namespace DurableMqtt

/-- The largest span: 2^64 seconds less a nanosecond. -/
def maxNanoseconds : Nat := 18446744073709551616 * 1000000000 - 1

structure Duration where
  nanoseconds : Nat
  le_max : nanoseconds ≤ maxNanoseconds := by decide
deriving DecidableEq

namespace Duration

instance : LE Duration := ⟨fun a b => a.nanoseconds ≤ b.nanoseconds⟩
instance : LT Duration := ⟨fun a b => a.nanoseconds < b.nanoseconds⟩
instance (a b : Duration) : Decidable (a ≤ b) := Nat.decLe _ _
instance (a b : Duration) : Decidable (a < b) := Nat.decLt _ _

def clamp (n : Nat) : Duration :=
  ⟨min n maxNanoseconds, Nat.min_le_right _ _⟩

def zero : Duration := ⟨0, Nat.zero_le _⟩

instance : Inhabited Duration := ⟨zero⟩

def isZero (d : Duration) : Bool := d.nanoseconds == 0

def ofSeconds (seconds : UInt64) : Duration := clamp (seconds.toNat * 1000000000)

def ofMilliseconds (milliseconds : UInt64) : Duration := clamp (milliseconds.toNat * 1000000)

def double (d : Duration) : Duration := clamp (2 * d.nanoseconds)

def min (a b : Duration) : Duration := if a ≤ b then a else b

def seconds (d : Duration) : Nat := d.nanoseconds / 1000000000

def subsecond (d : Duration) : Nat := d.nanoseconds % 1000000000

/-- The digits of `fraction` after the point in a field of `width` places, without the zeros
at the end. -/
def fractionDigits (width fraction : Nat) : List Char :=
  let digits := Nat.toDigits 10 fraction
  let padded := List.replicate (width - digits.length) '0' ++ digits
  (padded.reverse.dropWhile (· == '0')).reverse

def withUnit (whole fraction width : Nat) (unit : String) : String :=
  if fraction = 0 then toString whole ++ unit
  else toString whole ++ "." ++ String.ofList (fractionDigits width fraction) ++ unit

def text (d : Duration) : String :=
  let n := d.nanoseconds
  if 1000000000 ≤ n then withUnit (n / 1000000000) (n % 1000000000) 9 "s"
  else if 1000000 ≤ n then withUnit (n / 1000000) (n % 1000000) 6 "ms"
  else if 1000 ≤ n then withUnit (n / 1000) (n % 1000) 3 "µs"
  else withUnit n 0 0 "ns"

end Duration

end DurableMqtt
