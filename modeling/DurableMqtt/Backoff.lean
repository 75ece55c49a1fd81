import DurableMqtt.Clock
import DurableMqtt.Error
import DurableMqtt.Text.Quoted

/-!
Quiet times between reconnect attempts. Each attempt waits for the current quiet time and then
doubles it up to a bound; a connection that stays up until the stability timer expires brings
it back to its base.

A timer that is replaced or stopped may still be about to expire. Every start and stop changes
the generation, and an expiry counts only for the generation that its timer was started with.
-/

namespace DurableMqtt

structure Timing where
  base : Duration
  max : Duration
  /-- How long a connection has to hold to count as stable. -/
  stable : Duration
  base_lt_stable : base < stable
deriving DecidableEq

namespace Timing

def make (base max stable : Duration) : Except TimingError Timing :=
  if h : base < stable then .ok ⟨base, max, stable, h⟩ else .error ⟨base, stable⟩

def standard : Timing :=
  ⟨⟨1000000000, by decide⟩, ⟨32000000000, by decide⟩, ⟨20000000000, by decide⟩, by decide⟩

instance : Inhabited Timing := ⟨standard⟩

def shown (t : Timing) : String :=
  Text.record "BackoffTiming"
    [⟨"base", t.base.text⟩, ⟨"max", t.max.text⟩, ⟨"stable", t.stable.text⟩]

end Timing

/-- A started timer that has neither expired nor noticed that it is out of date. -/
structure StabilityTimer where
  generation : UInt64
  after : Duration
deriving DecidableEq, Inhabited

structure Backoff where
  timing : Timing
  /-- What the next attempt waits for. -/
  current : Duration
  generation : UInt64 := 0
  /-- A timer was started and not stopped since, whether or not it has expired. -/
  armed : Bool := false
  timers : List StabilityTimer := []
deriving Inhabited

namespace Backoff

/-- The wait before the very first reconnect, whatever the base is. -/
def initialQuiet : Duration := ⟨1000000000, by decide⟩

def start (timing : Timing) : Backoff := { timing, current := initialQuiet }

def reconfigure (b : Backoff) (timing : Timing) : Backoff := { b with timing }

/-- Leaves every timer started so far out of date. -/
def stopTimer (b : Backoff) : Backoff :=
  { b with generation := b.generation + 1, armed := false }

def startTimer (b : Backoff) : Backoff :=
  let b := b.stopTimer
  { b with
    armed := true
    timers := b.timers ++ [⟨b.generation, b.timing.stable⟩] }

/-- The quiet time that follows the current one. A quiet time of zero starts over at the base. -/
def escalated (b : Backoff) : Duration :=
  if b.current.isZero then b.timing.base else b.current.double.min b.timing.max

def escalate (b : Backoff) : Backoff := { b with current := b.escalated }

def expire (b : Backoff) (t : StabilityTimer) : Backoff :=
  let b' := { b with timers := b.timers.erase t }
  if t ∈ b.timers ∧ t.generation = b.generation then { b' with current := b.timing.base }
  else b'

/-- A whole wait: any timer is stopped, the current quiet time passes, and the next one is
longer. Answers the time waited. -/
def backOff (b : Backoff) : Duration × Backoff :=
  (b.stopTimer.current, b.stopTimer.escalate)

def canExpire (t : StabilityTimer) : Bool := t.after.nanoseconds < Instant.limit

def expireAll (b : Backoff) : Backoff :=
  b.timers.foldl (fun b t => if canExpire t then b.expire t else b) b

def shown (b : Backoff) : String :=
  Text.record "BackoffController"
    [⟨"timing", b.timing.shown⟩, ⟨"current", b.current.text⟩, ⟨"timer_armed", toString b.armed⟩]

end Backoff

end DurableMqtt
