import Mathlib
import DurableMqtt.Session.Api
import DurableMqtt.Session.Consumer
import DurableMqtt.Session.Supervisor

/-!
Runs of a session: the steps that its sides take, in any order.

An operation of the application, the handling of one event and one paced step of the recovery
are steps of their own, and so is each stage of the supervisor. Every step comes with the
answers of the engine at that moment, so a run leaves the engine free to answer as it likes.
-/

namespace DurableMqtt

/-- What an engine can report. The kind of a report fixes the identifier that it carries. -/
inductive Report where
  | connack (code : UInt8)
  | disconnect (code : UInt8)
  | puback (number : UInt32)
  | suback (number : UInt32) (answer : SubscribeReturn)
  | unsuback (number : UInt32)
  | message (message : Message)

def Report.event : Report → Event
  | connack code => .connack code
  | disconnect code => .disconnect code
  | puback number => .puback number
  | suback number answer => .suback number answer
  | unsuback number => .unsuback number
  | message m => .message m

inductive Adjustment where
  | backoff (base max stable : Duration)
  | drainingInterval (interval : Duration)
  | connectDisconnectTimeout (timeout : Duration)
  | operationTimeout (timeout : Duration)
  | keepAlive (keepAlive : Duration)
  | onOnline (hook : Callback)
  | onOffline (hook : Callback)
  | onMessage (hook : Callback)
  | onUnhandledMessage (hook : Callback)

inductive Step where
  | connect (caller : Caller)
  | disconnect (caller : Caller)
  /-- A publish, subscribe or unsubscribe. -/
  | request (request : Request) (caller : Caller)
  | configureQueue (capacity : Int) (policy : DropPolicy)
  | adjust (adjustment : Adjustment)
  /-- The engine enqueues a report. -/
  | report (report : Report)
  /-- The consumer handles the oldest event. -/
  | dispatch (now : Instant)
  /-- The consumer looks whether a paced step is due, and takes it. -/
  | tick (now : Instant)
  /-- The supervisor goes on by one stage. -/
  | supervise (now : Instant)
  /-- A stability timer comes to its end. -/
  | expire (timer : StabilityTimer)

/-- A step, and how the engine answers while it is taken. -/
structure Move where
  step : Step
  engine : Engine := fun _ => .error .notConnected

def numbering (number : UInt32) : Engine := fun _ => .ok number

namespace Session

def adjust (adjustment : Adjustment) (s : Session) : Session :=
  match adjustment with
  | .backoff base max stable =>
    match s.configureBackoff base max stable with
    | .ok adjusted => adjusted
    | .error _ => s
  | .drainingInterval interval => s.configureDrainingInterval interval
  | .connectDisconnectTimeout timeout => s.configureConnectDisconnectTimeout timeout
  | .operationTimeout timeout => s.configureOperationTimeout timeout
  | .keepAlive keepAlive => s.configureKeepAlive keepAlive
  | .onOnline hook => s.onOnline hook
  | .onOffline hook => s.onOffline hook
  | .onMessage hook => s.onMessage hook
  | .onUnhandledMessage hook => s.onUnhandledMessage hook

/-- Does the given chores and all that they lead to. The fuel bounds their number. -/
def carryOut (engine : Engine) (now : Instant) : Nat → List Chore → Session → Session
  | 0, _, s => s
  | _ + 1, [], s => s
  | fuel + 1, chore :: rest, s =>
    let (more, s) := s.perform engine now chore
    if s.consumer.halted then s else carryOut engine now fuel (more ++ rest) s

def carryOutAll (engine : Engine) (now : Instant) (chores : List Chore) (s : Session) : Session :=
  carryOut engine now (Chore.totalWeight chores) chores s

def nextEvent? (s : Session) : Option Event :=
  if s.consumer.halted then none
  else
    match s.events.next with
    | (.event e, _) => some e
    | _ => none

def dispatch (engine : Engine) (now : Instant) (s : Session) : Session :=
  match s.nextEvent? with
  | some e => { s with events := s.events.next.2 }.carryOutAll engine now e.chores
  | none => s

def tick (engine : Engine) (now : Instant) (s : Session) : Session :=
  if s.consumer.halted then s else s.carryOutAll engine now [.checkDue]

def after (m : Move) (s : Session) : Session :=
  match m.step with
  | .connect caller => (s.connect m.engine caller).2
  | .disconnect caller => (s.disconnect m.engine caller).2
  | .request request caller => (s.route m.engine request caller).2
  | .configureQueue capacity policy => s.configureQueue capacity policy
  | .adjust adjustment => s.adjust adjustment
  | .report report => s.push report.event
  | .dispatch now => s.dispatch m.engine now
  | .tick now => s.tick m.engine now
  | .supervise now => s.supervise m.engine now
  | .expire timer => { s with backoff := s.backoff.expire timer }

def run : List Move → Session → Session
  | [], s => s
  | m :: rest, s => run rest (s.after m)

/-- What was done to the outside between two states of a run. -/
def since (s t : Session) : List Effect := t.effects.drop s.effects.length

theorem since_of_append {s t : Session} {effects : List Effect}
    (appended : t.effects = s.effects ++ effects) : since s t = effects := by
  unfold since
  rw [appended, List.drop_left]

theorem since_of_same {s t : Session} (same : t.effects = s.effects) : since s t = [] :=
  since_of_append (same.trans (List.append_nil _).symm)

theorem since_self (s : Session) : since s s = [] := since_of_same rfl

theorem run_append (first second : List Move) (s : Session) :
    run (first ++ second) s = run second (run first s) := by
  induction first generalizing s with
  | nil => rfl
  | cons m rest ih => exact ih (s.after m)

end Session

end DurableMqtt
