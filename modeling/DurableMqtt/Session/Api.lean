import DurableMqtt.Completion
import DurableMqtt.Decimal.Shortest
import DurableMqtt.Frequency
import DurableMqtt.Session.Basic

/-!
What an application can ask of a session.

Every operation answers at once, with the identifier under which its acknowledgment will be
known or with the reason why it was refused. A caller that waits for the acknowledgment passes
itself in as a waiter and turns the answer it is given into its result.
-/

namespace DurableMqtt

inductive Caller where
  | notified (callback : Option Callback)
  | waiting (waiter : Waiter)
deriving DecidableEq, Inhabited

namespace Caller

def responder : Caller → Option Responder
  | notified callback => callback.map fun c => .pooled (.callback c)
  | waiting waiter => some (.inline waiter)

/-- What a parked request keeps of its caller. Waiting callers return as soon as their request
is parked, so it keeps none of them. -/
def listener : Caller → Option Listener
  | notified callback => callback.map .callback
  | waiting _ => none

end Caller

def Request.hasValidTopic (r : Request) : Bool :=
  match r.action with
  | .publish .. => Topic.isName r.topic
  | .subscribe .. | .unsubscribe => Topic.isFilter r.topic

namespace Session

/-! ### Connecting -/

/-- Opens a connection, from the phases in which none is open or on its way. -/
def connect (engine : Engine) (caller : Caller) (s : Session) :
    Except SessionError RequestId × Session :=
  if s.phase.acceptsConnect then
    let s := { s.writePhase .connecting with epoch := s.epoch + 1 }
    match s.sendConnect engine caller.responder with
    | (.ok id, s) => (.ok id, s)
    | (.error cause, s) => (.error (.refused .connect cause), s.writePhase .idle)
  else (.error (.invalidState .connect s.phase), s)

/-- Finishes a disconnect without the engine: its event is made up and handled like the end of
a network session. -/
def disconnectLocally (responder : Option Responder) (s : Session) : Session :=
  { s with pending := s.pending.insert .disconnect { responder } }.push (.disconnect 0)

def disconnect (engine : Engine) (caller : Caller) (s : Session) :
    Except SessionError RequestId × Session :=
  let previous := s.phase
  let s := { s.writePhase .userDisconnect with epoch := s.epoch + 1 }.stopTimer
  if previous.isConnected then
    match s.sendDisconnect engine caller.responder with
    | (.ok id, s) => (.ok id, s)
    | (.error _, s) => (.ok .disconnect, s.disconnectLocally caller.responder)
  else (.ok .disconnect, s.disconnectLocally caller.responder)

/-! ### Requests -/

def accept (request : Request) (s : Session) : Accepted × Session :=
  (⟨s.nextTicket, request⟩, { s with nextTicket := s.nextTicket + 1 })

/-- Sends a request, or parks it while the session is away or recovering. -/
def route (engine : Engine) (request : Request) (caller : Caller) (s : Session) :
    Except SessionError RequestId × Session :=
  let request := request.withListener caller.listener
  if !request.hasValidTopic then
    (.error (.invalidArgument
      ("Cannot " ++ request.kind.text ++ " invalid topic " ++ Text.quoted request.topic)), s)
  else
    let (accepted, taken) := s.accept request
    if s.phase.isRecovering then
      match s.queue.append accepted with
      | (.stored, queue) => (.ok .queued, { taken with queue })
      | (.full, queue) =>
        let s := if s.queue.policy = .dropOldest then taken else s
        (.error (.queueFull request.kind), { s with queue })
      | (.disabled, _) => (.error (.queueDisabled request.kind), s)
    else
      match taken.issue engine accepted caller.responder with
      | (.ok id, s) => (.ok id, s)
      | (.error cause, refused) =>
        (.error (.refused request.kind cause), { refused with nextTicket := s.nextTicket })

def publish (engine : Engine) (topic : String) (payload : ByteArray) (qos : Qos) (retain : Bool)
    (caller : Caller) (s : Session) : Except SessionError RequestId × Session :=
  s.route engine { topic, action := .publish payload qos retain, onAck := none } caller

def subscribe (engine : Engine) (topic : String) (qos : Qos) (handler : Callback)
    (caller : Caller) (s : Session) : Except SessionError RequestId × Session :=
  s.route engine { topic, action := .subscribe qos handler, onAck := none } caller

def unsubscribe (engine : Engine) (topic : String) (caller : Caller) (s : Session) :
    Except SessionError RequestId × Session :=
  s.route engine { topic, action := .unsubscribe, onAck := none } caller

/-! ### Waiting for an answer -/

def timeout (kind : RequestKind) (s : Session) : Duration :=
  match kind with
  | .connect | .disconnect => s.settings.connectDisconnectTimeout
  | _ => s.settings.operationTimeout

end Session

inductive Outcome where
  | code (code : UInt8)
  /-- False if the request was parked. -/
  | acknowledged (value : Bool)
  /-- None if the request was parked. -/
  | subscription (answer : Option SubscribeReturn)
deriving DecidableEq

namespace Outcome

def parked : RequestKind → Outcome
  | .connect | .disconnect => code 0
  | .subscribe => subscription none
  | .publish | .unsubscribe => acknowledged false

def ofAck (ack : Ack) : RequestKind → Outcome
  | .connect | .disconnect => code ack.returnCode
  | .subscribe =>
    match ack with
    | .subscribed answer => subscription (some answer)
    | _ => subscription (some .failure)
  | .publish | .unsubscribe => acknowledged true

def await (kind : RequestKind) (id : RequestId) (after : Duration) (answer : Option Ack) :
    Except SessionError Outcome :=
  if id = .queued then .ok (parked kind)
  else
    match answer with
    | some .discarded =>
      .error (.refused kind (.rejected "request discarded before reaching the broker"))
    | some ack => .ok (ofAck ack kind)
    | none => .error (.timedOut kind after)

end Outcome

namespace Session

/-! ### Settings -/

def configureBackoff (base max stable : Duration) (s : Session) : Except SessionError Session :=
  match Timing.make base max stable with
  | .ok timing =>
    .ok { s with
      backoff := s.backoff.reconfigure timing
      settings := { s.settings with timing } }
  | .error cause => .error (.timing cause)

/-- Resizes the queue. Requests that no longer fit are gone. -/
def configureQueue (capacity : Int) (policy : DropPolicy) (s : Session) : Session :=
  { s with
    queue := s.queue.reconfigure capacity policy
    settings := { s.settings with queueCapacity := capacity, dropPolicy := policy } }

def configureDrainingInterval (interval : Duration) (s : Session) : Session :=
  { s with settings := { s.settings with drainingInterval := interval } }

inductive FrequencyFault where
  | refused (cause : SessionError)
  /-- The time between two requests is too long for a span to hold; the caller is to blame. -/
  | tooSlow

def configureDrainingFrequency (hz : Float) (s : Session) : Except FrequencyFault Session :=
  if isFrequency hz then
    match period? hz with
    | some interval => .ok (s.configureDrainingInterval interval)
    | none => .error .tooSlow
  else
    .error (.refused (.invalidArgument
      ("Draining frequency must be a positive number, got " ++ Decimal.text hz)))

def configureConnectDisconnectTimeout (timeout : Duration) (s : Session) : Session :=
  { s with settings := { s.settings with connectDisconnectTimeout := timeout } }

def configureOperationTimeout (timeout : Duration) (s : Session) : Session :=
  { s with settings := { s.settings with operationTimeout := timeout } }

def configureKeepAlive (keepAlive : Duration) (s : Session) : Session :=
  { s with settings := { s.settings with keepAlive } }

def onOnline (hook : Callback) (s : Session) : Session :=
  { s with hooks := { s.hooks with online := some hook } }

def onOffline (hook : Callback) (s : Session) : Session :=
  { s with hooks := { s.hooks with offline := some hook } }

def onMessage (hook : Callback) (s : Session) : Session :=
  { s with hooks := { s.hooks with message := some hook } }

def onUnhandledMessage (hook : Callback) (s : Session) : Session :=
  { s with hooks := { s.hooks with unhandled := some hook } }

def hookInstallers : List (String × (Callback → Session → Session)) :=
  [("online", onOnline), ("offline", onOffline), ("observe", onMessage),
   ("unhandled", onUnhandledMessage)]

def spanSetters : List (String × (Duration → Session → Session)) :=
  [("interval", configureDrainingInterval),
   ("connect_disconnect_timeout", configureConnectDisconnectTimeout),
   ("operation_timeout", configureOperationTimeout),
   ("keep_alive", configureKeepAlive)]

/-! ### The end -/

/-- Takes the session down: the consumer and the supervisor end, then the engine is stopped. -/
def shutdown (s : Session) : Session :=
  { s with
    interrupted := true
    events := s.events.stop
    supervisor := .stopped }.stopTimer.emit .stoppedIo

def shown (s : Session) : String :=
  Text.record "MqttCore"
    [⟨"state", s.phase.name⟩, ⟨"subscriptions", toString s.registry.records.length⟩,
     ⟨"queued", toString s.queue.items.length⟩, ⟨"pending", toString s.pending.size⟩]

end Session

end DurableMqtt
