import DurableMqtt.Session.Basic

/-!
The consumer: dispatches events in the order in which they arrived and walks an accepted
session through its recovery.

1. Resubscribing: every record of the registry is sent again, one per interval, until all of
   them are acknowledged or could not be sent.
2. Draining: the queue is sent, one request per interval.
3. Stable, once the queue is found empty; the stability timer starts.
-/

namespace DurableMqtt

namespace Event

def chores (e : Event) : List Chore :=
  match e.kind with
  | .connack code =>
    [.answer .connect (.connected code), if code = 0 then .welcome else .refuse]
  | .disconnect code => [.readEpoch code]
  | .puback => [.acknowledge e.id .published]
  | .suback answer => [.acknowledge e.id (.subscribed answer)]
  | .unsuback => [.acknowledge e.id .unsubscribed]
  | .message m => [.deliver m]

end Event

namespace Chore

/-- A bound on the number of chores that a chore leads to, itself included. -/
def weight : Chore → Nat
  | readEpoch _ => 6
  | leave .. => 5
  | refuse | checkDue => 3
  | pace => 2
  | _ => 1

def totalWeight : List Chore → Nat
  | [] => 0
  | chore :: rest => chore.weight + totalWeight rest

end Chore

namespace Session

/-! ### Connection -/

def answer (id : RequestId) (ack : Ack) (s : Session) : Session :=
  match s.pending.take? id with
  | some (entry, pending) => { s with pending }.respond id entry.responder ack
  | none => s

/-- Starts to send the queue, unless the application closed the session. -/
def enterDraining (now : Instant) (s : Session) : Session :=
  if s.phase.accepts .draining then
    (s.writePhase .draining).withRecovery (some ⟨.draining, now⟩)
  else s.withRecovery none

/-- Takes up an accepted session. The answer to an attempt that was given up is ignored. -/
def welcome (now : Instant) (s : Session) : Session :=
  if s.phase = .connecting then
    let s := s.writePhase .resubscribing
    let s := { s with consumer := { s.consumer with online := true } }
    let s := s.submitHook s.hooks.online .online
    match s.registry.records with
    | [] => s.enterDraining now
    | records => s.withRecovery (some ⟨.resubscribing records records.length, now⟩)
  else s.withRecovery none

/-- Gives up an attempt that the broker refused. Nothing is retried until the application
connects again. -/
def refuse (s : Session) : List Chore × Session :=
  let s := s.withRecovery none
  if s.phase = .connecting then
    ([.stopTimer, .stopIo], { s.writePhase .idle with epoch := s.epoch + 1 })
  else ([], s)

def goOffline (s : Session) : Session :=
  if s.consumer.online then
    { s with consumer := { s.consumer with online := false } }.submitHook s.hooks.offline .offline
  else s

/-- What follows from the end of a network session, by the phase it ended in. -/
def leave (code : UInt8) (epoch : Nat) (s : Session) : List Chore × Session :=
  let s := s.goOffline.withRecovery none
  match s.phase with
  | .userDisconnect => ([.answer .disconnect (.disconnected code), .stopIo, .clearPending], s)
  | .idle => ([], s)
  | .connecting => ([.stopTimer, .requestReconnect epoch], s)
  | _ => ([.loseSession, .stopTimer, .requestReconnect epoch], s)

def discardInFlight (entries : List (UInt32 × PendingEntry)) (s : Session) : Session :=
  entries.foldl (fun s (number, e) => s.respond (.packet number) e.responder .discarded) s

/-- Moves every request in flight back to the head of the queue, oldest identifier first.
Subscriptions that were being restored are dropped, since the next session restores them
again. A disabled queue takes nothing, so its requests are discarded. -/
def loseSession (s : Session) : Session :=
  let s := s.writePhase .abnormalDisconnect
  let lost := s.pending.inFlight.filter fun (_, e) => !e.resubscribe
  let s := { s with pending := s.pending.withoutPackets }
  let (kept, discarded) := lost.partition fun (_, e) => !s.queue.isDisabled && e.replay.isSome
  let s := s.discardInFlight discarded
  { s with queue := s.queue.restore (kept.filterMap fun (_, e) => e.replayed) }

/-! ### Acknowledgments -/

def settled (r : Recovery) : Recovery :=
  match r.stage with
  | .resubscribing unsent outstanding => { r with stage := .resubscribing unsent (outstanding - 1) }
  | .draining => r

/-- Counts the acknowledgment of a restored subscription. The last one starts the draining. -/
def settleResubscribe (now : Instant) (s : Session) : Session :=
  match s.consumer.recovery with
  | none => s
  | some r =>
    let r := settled r
    let s := s.withRecovery (some r)
    if r.isSettled then s.enterDraining now else s

def acknowledge (now : Instant) (id : RequestId) (ack : Ack) (s : Session) : Session :=
  match s.pending.take? id with
  | none => s
  | some (entry, pending) =>
    let s := { s with pending, registry := s.registry.acknowledged entry.effect ack }
    let s := if entry.resubscribe then s.settleResubscribe now else s
    s.respond id entry.responder ack

/-! ### Messages -/

/-- Hands a message to the hook that sees them all, then to the subscription that covers it or
to the hook for the rest. A topic that cannot be compared ends the consumer. -/
def deliver (m : Message) (s : Session) : Session :=
  let s := s.submitHook s.hooks.message (.observe · m)
  match s.registry.routing m.topic with
  | .error _ => s.halt
  | .ok (some record) => s.submit (.deliver record.handler m)
  | .ok none => s.submitHook s.hooks.unhandled (.unhandled · m)

/-! ### Recovery -/

def scheduleTick (now : Instant) (interval : Duration) (s : Session) : Session :=
  match s.consumer.recovery with
  | none => s
  | some r =>
    match now.after? interval with
    | some nextTick => s.withRecovery (some { r with nextTick })
    | none => s.halt

def pace (s : Session) : List Chore × Session :=
  if s.phase = .resubscribing ∨ s.phase = .draining then
    let interval := s.settings.drainingInterval
    match s.consumer.recovery with
    | some ⟨.draining, _⟩ => ([.drainOne interval], s)
    | some ⟨.resubscribing .., _⟩ => ([.resubscribeOne interval], s)
    | none => ([], s)
  else ([], s.withRecovery none)

/-- Sends the next subscription again. One that cannot be sent is not waited for. -/
def resubscribeNext (engine : Engine) (r : Recovery) (s : Session) : Session :=
  match r.stage with
  | .resubscribing (record :: unsent) outstanding =>
    let (sent, s) := s.resubscribe engine record
    let outstanding := if sent.isOk then outstanding else outstanding - 1
    s.withRecovery (some { r with stage := .resubscribing unsent outstanding })
  | _ => s

def resubscribeOne (engine : Engine) (now : Instant) (interval : Duration) (s : Session) :
    Session :=
  match s.consumer.recovery with
  | none => s
  | some r =>
    let s := (s.resubscribeNext engine r).scheduleTick now interval
    if s.consumer.halted then s
    else if s.consumer.recovery.any Recovery.isSettled then s.enterDraining now
    else s

/-- Sends the request at the head of the queue. One that the engine is too busy for goes back,
one that it will never send is discarded. -/
def replayHead (engine : Engine) (a : Accepted) (s : Session) : Session :=
  match s.issue engine a (a.request.onAck.map .pooled) with
  | (.ok _, s) => s
  | (.error cause, s) =>
    if cause.isTransient then { s with queue := s.queue.restore [a] }
    else s.respond .queued (a.request.onAck.map .pooled) .discarded

/-- A paced step of the draining. An empty queue makes the session stable. -/
def drainOne (engine : Engine) (now : Instant) (interval : Duration) (s : Session) : Session :=
  match s.queue.pop with
  | none =>
    let s := if s.phase.accepts .stable then
        { s.writePhase .stable with backoff := s.backoff.startTimer }
      else s
    s.withRecovery none
  | some (a, queue) =>
    ({ s with queue }.replayHead engine a).scheduleTick now interval

def isDue (now : Instant) (s : Session) : Bool :=
  match s.consumer.recovery.bind Recovery.due? with
  | some tick => tick ≤ now
  | none => false

/-! ### Running -/

def perform (engine : Engine) (now : Instant) (chore : Chore) (s : Session) :
    List Chore × Session :=
  match chore with
  | .answer id ack => ([], s.answer id ack)
  | .welcome => ([], s.welcome now)
  | .refuse => s.refuse
  | .readEpoch code => ([.leave code s.epoch], s)
  | .leave code epoch => s.leave code epoch
  | .loseSession => ([], s.loseSession)
  | .stopTimer => ([], s.stopTimer)
  | .stopIo => ([], s.emit .stoppedIo)
  | .clearPending => ([], { s with pending := {} })
  | .requestReconnect epoch => ([], { s with signals := s.signals ++ [epoch] })
  | .acknowledge id ack => ([], s.acknowledge now id ack)
  | .deliver m => ([], s.deliver m)
  | .checkDue => (if s.isDue now then [.pace] else [], s)
  | .pace => s.pace
  | .resubscribeOne interval => ([], s.resubscribeOne engine now interval)
  | .drainOne interval => ([], s.drainOne engine now interval)

/-- Does the first chore that is left. What it leads to comes before the rest. -/
def work (engine : Engine) (now : Instant) (s : Session) : Session :=
  match s.consumer.chores with
  | [] => s
  | chore :: rest =>
    let s := { s with consumer := { s.consumer with chores := rest } }
    let (more, s) := s.perform engine now chore
    if s.consumer.halted then s
    else { s with consumer := { s.consumer with chores := more ++ s.consumer.chores } }

/-- The next turn of the consumer, once it is done with the one before: it takes up the oldest
event, or wakes for a paced step that is due while no event waits. After each event it looks
whether a step is due. -/
def turn (now : Instant) (s : Session) : Session :=
  if s.consumer.halted || !s.consumer.chores.isEmpty then s
  else
    match s.events.next with
    | (.event e, events) =>
      { s with events, consumer := { s.consumer with chores := e.chores ++ [.checkDue] } }
    | (.tick, _) =>
      if s.isDue now then { s with consumer := { s.consumer with chores := [.checkDue] } } else s
    | (.stopped, _) => s

end Session

end DurableMqtt
