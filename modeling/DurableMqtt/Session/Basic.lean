import DurableMqtt.Clock
import DurableMqtt.Engine
import DurableMqtt.Event
import DurableMqtt.Pending
import DurableMqtt.Session.Settings

/-!
The state of a session that outlives its connections, and what it asks of the outside.

A session is driven from three sides. The application calls it, the consumer works through the
events of the engine, and the supervisor reconnects after a loss. Each side moves in atomic
steps; between two steps of one side, the others may take any number of theirs.
-/

namespace DurableMqtt

inductive Job where
  | online (hook : Callback)
  | offline (hook : Callback)
  /-- Sees every inbound message. -/
  | observe (hook : Callback) (message : Message)
  | deliver (handler : Callback) (message : Message)
  /-- Sees messages that no subscription covers. -/
  | unhandled (hook : Callback) (message : Message)
  | acknowledge (listener : Listener) (id : RequestId) (ack : Ack)
deriving DecidableEq, Inhabited

/-- What a session does to the outside. -/
inductive Effect where
  /-- The ticket is that of the request which is sent, if the call sends one that was accepted. -/
  | called (call : EngineCall) (answer : Except EngineError UInt32) (ticket : Option Nat)
  /-- The engine is told to end its network session. -/
  | stoppedIo
  /-- Handed to the callback pool. -/
  | submitted (job : Job)
  /-- A waiting caller is given its answer on the spot. -/
  | released (waiter : Waiter) (ack : Ack)

structure Hooks where
  online : Option Callback := none
  offline : Option Callback := none
  message : Option Callback := none
  unhandled : Option Callback := none
deriving Inhabited

inductive Stage where
  /-- Subscriptions not sent yet, and how many are not acknowledged yet. -/
  | resubscribing (unsent : List Subscription) (outstanding : Nat)
  | draining
deriving Inhabited

/-- The way of an accepted session back to stability, one paced step at a time. -/
structure Recovery where
  stage : Stage
  nextTick : Instant
deriving Inhabited

namespace Recovery

/-- When the next paced step is due, if there is one to take. -/
def due? (r : Recovery) : Option Instant :=
  match r.stage with
  | .resubscribing [] _ => none
  | _ => some r.nextTick

def isSettled (r : Recovery) : Bool :=
  match r.stage with
  | .resubscribing [] 0 => true
  | _ => false

end Recovery

/-- The atomic steps into which the consumer's work falls. -/
inductive Chore where
  /-- Answers whoever waits under an identifier. -/
  | answer (id : RequestId) (ack : Ack)
  /-- Takes up an accepted session. -/
  | welcome
  /-- Gives up a refused attempt. -/
  | refuse
  /-- Reads the epoch before anything of a lost session shows. -/
  | readEpoch (code : UInt8)
  /-- Decides by the phase what the end of a network session means. -/
  | leave (code : UInt8) (epoch : Nat)
  /-- Moves the requests of a lost session back into the queue. -/
  | loseSession
  | stopTimer
  | stopIo
  | clearPending
  | requestReconnect (epoch : Nat)
  /-- Settles the request that an acknowledgment is for. -/
  | acknowledge (id : RequestId) (ack : Ack)
  | deliver (message : Message)
  /-- Looks whether a paced step is due. -/
  | checkDue
  | pace
  | resubscribeOne (interval : Duration)
  | drainOne (interval : Duration)
deriving Inhabited

structure Consumer where
  recovery : Option Recovery := none
  /-- An accepted session is up, as far as the application was told. -/
  online : Bool := false
  /-- What is left to do of the event at hand. -/
  chores : List Chore := []
  /-- A fault ended the consumer; no event is dispatched any more. -/
  halted : Bool := false
deriving Inhabited

/-- Where the supervisor stands. `expected` is the epoch at which reconnecting still makes
sense. -/
inductive Supervisor where
  | idle
  | engaged (expected : Nat)
  | cancelling (expected : Nat)
  | quiet (expected : Nat) (slept : Duration) (wakeAt : Instant)
  | attempting (expected : Nat) (slept : Duration)
  | stopped
deriving DecidableEq, Inhabited

structure Session where
  settings : Settings
  phase : Phase := .idle
  /-- Counts connects, disconnects and refusals, so that a reconnect can tell whether anything
  happened since it was scheduled. No act adds more than one (`epoch_acted_le`), so 64 bits hold it
  in any run of fewer than 2^64 acts. -/
  epoch : Nat := 0
  registry : Registry := {}
  queue : OfflineQueue Accepted
  pending : PendingTable := {}
  events : EventQueue := {}
  backoff : Backoff
  hooks : Hooks := {}
  /-- Epochs of scheduled reconnects, oldest first. -/
  signals : List Nat := []
  consumer : Consumer := {}
  supervisor : Supervisor := .idle
  interrupted : Bool := false
  nextTicket : Nat := 0
  /-- Everything done to the outside, oldest first. -/
  effects : List Effect := []
deriving Inhabited

namespace Session

def start (settings : Settings) : Session :=
  { settings
    queue := .empty settings.queueCapacity settings.dropPolicy
    backoff := .start settings.timing }

def emit (s : Session) (e : Effect) : Session :=
  { s with effects := s.effects ++ [e] }

def submit (s : Session) (job : Job) : Session := s.emit (.submitted job)

def submitHook (s : Session) (hook : Option Callback) (job : Callback → Job) : Session :=
  match hook with
  | some hook => s.submit (job hook)
  | none => s

def writePhase (s : Session) (next : Phase) : Session :=
  { s with phase := s.phase.write next }

def withRecovery (s : Session) (recovery : Option Recovery) : Session :=
  { s with consumer := { s.consumer with recovery } }

/-- Ends the consumer, dropping what it was about to do. -/
def halt (s : Session) : Session :=
  { s with consumer := { s.consumer with chores := [], halted := true } }

def stopTimer (s : Session) : Session := { s with backoff := s.backoff.stopTimer }

def push (s : Session) (e : Event) : Session := { s with events := s.events.push e }

def respond (s : Session) (id : RequestId) (responder : Option Responder) (ack : Ack) : Session :=
  match responder with
  | some (.inline waiter) => s.emit (.released waiter ack)
  | some (.pooled listener) => s.submit (.acknowledge listener id ack)
  | none => s

/-- Calls the engine and, if it takes the request, stores the entry under the request's
identifier. -/
def send (engine : Engine) (call : EngineCall) (entry : PendingEntry) (s : Session) :
    Except EngineError RequestId × Session :=
  let answer := engine call
  let (sent, pending) := s.pending.register entry (answer.map fun number => call.id number)
  (sent, { s.emit (.called call answer (entry.replay.map Accepted.ticket)) with pending })

def sendConnect (engine : Engine) (responder : Option Responder) (s : Session) :
    Except EngineError RequestId × Session :=
  s.send engine (.connect s.settings.keepAlive) { responder }

def sendDisconnect (engine : Engine) (responder : Option Responder) (s : Session) :
    Except EngineError RequestId × Session :=
  s.send engine .disconnect { responder }

end Session

namespace Request

def call (r : Request) : EngineCall :=
  match r.action with
  | .publish payload qos retain => .publish r.topic payload qos retain
  | .subscribe qos _ => .subscribe r.topic qos
  | .unsubscribe => .unsubscribe r.topic

/-- What a successful acknowledgment of the request does to the registry. The record keeps the
request's own listener. -/
def effect (r : Request) : RegistryEffect :=
  match r.action with
  | .publish .. => .none
  | .subscribe qos handler => .subscribe { topic := r.topic, qos, handler, onAck := r.onAck }
  | .unsubscribe => .unsubscribe r.topic

end Request

namespace Session

/-- Sends a request and answers to `responder` when it is acknowledged. The entry keeps the
request in case the session is lost first. -/
def issue (engine : Engine) (a : Accepted) (responder : Option Responder) (s : Session) :
    Except EngineError RequestId × Session :=
  s.send engine a.request.call
    { responder, effect := a.request.effect, replay := some a }

def resubscribe (engine : Engine) (record : Subscription) (s : Session) :
    Except EngineError RequestId × Session :=
  s.send engine (.subscribe record.topic record.qos)
    { responder := record.onAck.map .pooled
      effect := .subscribe record
      resubscribe := true }

end Session

end DurableMqtt
