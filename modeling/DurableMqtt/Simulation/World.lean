import DurableMqtt.Callback
import DurableMqtt.Session.Api
import DurableMqtt.Session.Consumer
import DurableMqtt.Session.Supervisor
import DurableMqtt.Simulation.Script

/-!
A session at work: a scripted engine, a clock that moves only when somebody waits, one
application thread and any number of callers that wait for their answers.

After each thing that happens the world is let run until nothing moves: every event is
dispatched, every paced step that is due is taken, and the supervisor sleeps.
-/

namespace DurableMqtt.Simulation

inductive Seen where
  | taken (call : EngineCall) (number : UInt32)
  | refused (call : EngineCall)
  | stoppedIo

structure Waiting where
  kind : RequestKind
  waiter : Waiter
  /-- What the operation answered at once. -/
  accepted : Except SessionError RequestId
  after : Duration
  deadline : Instant
  /-- The time to wait passed without an answer. -/
  expired : Bool := false

structure World where
  session : Session
  script : Script := {}
  now : Instant := 0
  pool : CallbackPool Job
  completions : Completions := {}
  callers : List Waiting := []
  /-- When each stability timer is to expire. -/
  deadlines : List (StabilityTimer × Instant) := []
  seen : List Seen := []

namespace World

def start (settings : Settings) : World :=
  { session := .start settings, pool := .start settings.callbackWorkers }

/-! ### Effects -/

def isHopeless (w : World) (call : EngineCall) : Bool :=
  (w.script.ruleFor? call).any Rule.isEndless

/-- Notes a call, brings in the broker's answers and moves the script on. Hopeless attempts of
the background are not noted, since there is no end of them. -/
def noteCall (background : Bool) (call : EngineCall) (answer : Except EngineError UInt32)
    (w : World) : World :=
  let seen := match answer with
    | .ok number => [.taken call number]
    | .error _ => if background && w.isHopeless call then [] else [.refused call]
  { w with
    seen := w.seen ++ seen
    session := (w.script.events call).foldl Session.push w.session
    script := w.script.after call }

def bringAbout (background : Bool) (w : World) : Effect → World
  | .called call answer _ => w.noteCall background call answer
  | .stoppedIo => { w with seen := w.seen ++ [.stoppedIo] }
  | .submitted job => { w with pool := w.pool.submit job }
  | .released waiter ack => { w with completions := w.completions.complete waiter ack }

def noteTimers (w : World) : World :=
  let fresh := w.session.backoff.timers.filter fun t => !(w.deadlines.any (·.1 == t))
  let fresh := fresh.filterMap fun t => (w.now.after? t.after).map fun at' => (t, at')
  let left := w.deadlines.filter fun d => w.session.backoff.timers.contains d.1
  { w with deadlines := left ++ fresh }

def act {α : Type} (background : Bool) (step : Engine → Session → α × Session) (w : World) :
    α × World :=
  let (a, session) := step w.script.engine w.session
  let effects := session.effects
  let w := { w with session := { session with effects := [] } }
  (a, (effects.foldl (bringAbout background) w).noteTimers)

def move (background : Bool) (step : Engine → Session → Session) (w : World) : World :=
  (w.act background fun engine s => ((), step engine s)).2

/-- Runs the jobs that were submitted, in order. Answers to parked callers arrive this way. -/
def runJobs (w : World) : World :=
  let before := w.pool.ran.length
  let pool := w.pool.finish
  let completions := (pool.ran.drop before).foldl
    (fun c job =>
      match job with
      | .acknowledge (.waiter waiter) _ ack => c.complete waiter ack
      | _ => c)
    w.completions
  { w with pool, completions }

/-! ### Letting the world run -/

/-- What keeps trying without end: a side that is stuck rests until the next event. -/
structure Stuck where
  consumer : Bool := false
  supervisor : Bool := false

def nextIsHopeless (w : World) : Chore → Bool
  | .drainOne _ =>
    match w.session.queue.items with
    | a :: _ =>
      match w.script.ruleFor? a.request.call with
      | some rule => rule.isEndless && rule.error.isTransient
      | none => false
    | [] => false
  | _ => false

def finishChores : Nat → World → Stuck → World × Stuck
  | 0, w, stuck => (w, stuck)
  | fuel + 1, w, stuck =>
    match w.session.consumer.chores with
    | [] => (w, stuck)
    | chore :: _ =>
      let stuck := if w.nextIsHopeless chore then { stuck with consumer := true } else stuck
      finishChores fuel (w.move true fun engine s => s.work engine w.now) stuck

def supervisorMoves (w : World) : Bool :=
  match w.session.supervisor with
  | .idle => !w.session.signals.isEmpty
  | .quiet _ _ wakeAt => wakeAt ≤ w.now
  | .stopped => false
  | _ => true

/-- A retry without a quiet time before it that cannot succeed. -/
def attemptIsHopeless (w : World) : Bool :=
  match w.session.supervisor with
  | .attempting expected slept =>
    slept.isZero && w.session.epoch == expected && w.session.phase != .userDisconnect &&
      w.isHopeless (.connect w.session.settings.keepAlive)
  | _ => false

def settleSteps : Nat → Stuck → World → World
  | 0, _, w => w
  | fuel + 1, stuck, w =>
    let s := w.session
    if !s.consumer.halted && !s.events.events.isEmpty then
      let w := w.move true fun _ s => s.turn w.now
      let (w, stuck) := finishChores (Chore.totalWeight w.session.consumer.chores) w {}
      settleSteps fuel stuck w
    else if !s.consumer.halted && !stuck.consumer && s.isDue w.now then
      let w := w.move true fun _ s => s.turn w.now
      let (w, stuck) := finishChores (Chore.totalWeight w.session.consumer.chores) w stuck
      settleSteps fuel stuck w
    else if w.supervisorMoves && !stuck.supervisor then
      let stuck := if w.attemptIsHopeless then { stuck with supervisor := true } else stuck
      settleSteps fuel stuck (w.move true fun engine s => s.supervise engine w.now)
    else w

/-- More steps than the sides can take: each takes a few for every event, request and
subscription at hand, and for every refusal that is still to come. -/
def stepBound (w : World) : Nat :=
  let s := w.session
  let items := s.queue.items.length + s.registry.records.length + s.pending.size +
    s.events.events.length + 8
  let refusals := w.script.rules.foldl (fun n r => n + r.times.toNat) 0
  16 * (s.events.events.length + s.signals.length + 2) * items + 16 * refusals

def settle (w : World) : World := (settleSteps w.stepBound {} w).runJobs

/-- Whether all events get dispatched and all steps taken that are waited for. A consumer that a
fault has ended does neither. -/
def settles (w : World) : Bool :=
  let s := w.session
  !s.consumer.halted ||
    (s.events.events.isEmpty && s.phase != .resubscribing && s.phase != .draining)

/-! ### Time -/

def nextWake (limit : Instant) (w : World) : Option Instant :=
  let tick := w.session.consumer.recovery.bind Recovery.due?
  let tick := if w.session.consumer.halted then none else tick
  let wake := match w.session.supervisor with
    | .quiet _ _ wakeAt => some wakeAt
    | _ => none
  let points := w.deadlines.map (·.2) ++ tick.toList ++ wake.toList
  let points := points.filter fun p => w.now < p && p ≤ limit
  points.foldl (fun least p => some (least.elim p (min p))) none

def expireTimers (w : World) : World :=
  let due := w.deadlines.filter (·.2 ≤ w.now)
  { w with
    deadlines := w.deadlines.filter (w.now < ·.2)
    session := due.foldl
      (fun s (t, _) => { s with backoff := s.backoff.expire t }) w.session }

def expireCallers (w : World) : World :=
  { w with
    callers := w.callers.map fun c =>
      if c.deadline ≤ w.now && (w.completions.answer? c.waiter).isNone then
        { c with expired := true }
      else c }

def wakeBound : Nat := 10000

def advanceSteps : Nat → Instant → World → World
  | 0, limit, w => { w with now := max w.now limit }
  | fuel + 1, limit, w =>
    match w.nextWake limit with
    | none => { w with now := max w.now limit }
    | some p => advanceSteps fuel limit { w with now := p }.expireTimers.settle.expireCallers

def advance (limit : Instant) (w : World) : World :=
  (advanceSteps wakeBound limit w).expireTimers.settle.expireCallers

def awaitStability (w : World) : World :=
  match w.deadlines.find? (·.1.generation == w.session.backoff.generation) with
  | some (_, at') => w.advance at'
  | none => w

def awaitConnects (n : Nat) (w : World) : World :=
  if n ≤ w.script.connects then w
  else
    match w.session.supervisor with
    | .quiet _ _ wakeAt => w.advance wakeAt
    | _ => w

/-! ### Callers -/

inductive Operation where
  | connect
  | disconnect
  | publish (topic : String) (payload : ByteArray) (qos : Qos) (retain : Bool)
  | subscribe (topic : String) (qos : Qos) (handler : Callback)
  | unsubscribe (topic : String)

namespace Operation

/-- The operation that makes such a call. Messages of a subscription go to the handler. -/
def ofCall (handler : Callback) : EngineCall → Operation
  | .connect _ => connect
  | .disconnect => disconnect
  | .publish topic payload qos retain => publish topic payload qos retain
  | .subscribe topic qos => subscribe topic qos handler
  | .unsubscribe topic => unsubscribe topic

def kind : Operation → RequestKind
  | connect => .connect
  | disconnect => .disconnect
  | publish .. => .publish
  | subscribe .. => .subscribe
  | unsubscribe _ => .unsubscribe

def run (caller : Caller) : Operation → Engine → Session → Except SessionError RequestId × Session
  | connect, engine, s => s.connect engine caller
  | disconnect, engine, s => s.disconnect engine caller
  | publish topic payload qos retain, engine, s =>
    s.publish engine topic payload qos retain caller
  | subscribe topic qos handler, engine, s => s.subscribe engine topic qos handler caller
  | unsubscribe topic, engine, s => s.unsubscribe engine topic caller

end Operation

def call (op : Operation) (callback : Option Callback) (w : World) :
    Except SessionError RequestId × World :=
  let (r, w) := w.act false (op.run (.notified callback))
  (r, w.settle)

/-- Calls an operation in a thread of its own, which waits for the acknowledgment. -/
def callWaiting (op : Operation) (w : World) : Waiter × World :=
  let waiter : Waiter := ⟨w.callers.length⟩
  let (accepted, w) := w.act false (op.run (.waiting waiter))
  let after := w.session.timeout op.kind
  let caller : Waiting :=
    { kind := op.kind, waiter, accepted, after, deadline := w.now + after.nanoseconds }
  (waiter, { w with callers := w.callers ++ [caller] }.settle)

def outcome? (w : World) (c : Waiting) : Option (Except SessionError Outcome) :=
  match c.accepted with
  | .error e => some (.error e)
  | .ok id =>
    if id = .queued then some (Outcome.await c.kind id c.after none)
    else if c.expired then some (Outcome.await c.kind id c.after none)
    else
      match w.completions.answer? c.waiter with
      | some ack => some (Outcome.await c.kind id c.after (some ack))
      | none => none

def caller? (w : World) (waiter : Waiter) : Option Waiting :=
  w.callers.find? (·.waiter == waiter)

def hasReturned (w : World) (waiter : Waiter) : Bool :=
  ((w.caller? waiter).bind w.outcome?).isSome

def join (waiter : Waiter) (w : World) : Option (Except SessionError Outcome) × World :=
  match w.caller? waiter with
  | none => (none, w)
  | some c =>
    let w := if (w.outcome? c).isSome then w else w.advance c.deadline
    ((w.caller? waiter).bind w.outcome?, w)

end World

end DurableMqtt.Simulation
