import DurableMqtt.Decimal.Binary
import DurableMqtt.Duration

/-!
Frequencies in hertz, and the time between two beats.
-/

namespace DurableMqtt

namespace Duration

/-- A number of seconds to the nearest nanosecond, a half to the even one. None for a number
that is negative, not finite or past the largest span. -/
def ofFloatSeconds? (seconds : Float) : Option Duration :=
  match Decimal.Binary.ofFloat seconds with
  | .finite negative mantissa exponent =>
    let n := Decimal.Binary.scaled 1000000000 mantissa exponent
    if h : n ≤ maxNanoseconds then
      if negative && n != 0 then none else some ⟨n, h⟩
    else none
  | _ => none

end Duration

def isFrequency (hz : Float) : Bool := hz.isFinite && 0 < hz

def period? (hz : Float) : Option Duration := Duration.ofFloatSeconds? (1 / hz)

end DurableMqtt
