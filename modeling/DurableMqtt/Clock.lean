import DurableMqtt.Duration

/-!
Points in time, counted in nanoseconds from an arbitrary start. The clock holds 63 bits of
seconds, so a point too far ahead cannot be named.
-/

namespace DurableMqtt

abbrev Instant := Nat

namespace Instant

/-- The first point that the clock cannot name. -/
def limit : Nat := 9223372036854775808 * 1000000000

def after? (now : Instant) (d : Duration) : Option Instant :=
  if now + d.nanoseconds < limit then some (now + d.nanoseconds) else none

end Instant

end DurableMqtt
