import DurableMqtt.Proofs.Run.Interleaving

/-!
Runs in which the other sides act while one of them holds a lock.

Requests are sent, parked, replayed and restored under the lock of the queue, connections are opened
and given up under the lock of the epoch. Neither lock guards the phase, which can change between
any two pieces of a section, so the sections are followed here piece by piece.
-/

namespace DurableMqtt

/-- A section under the lock of the queue, by what it is about to do. -/
inductive QueueSection where
  /-- To send or park a request, by the phase that was read. -/
  | routing (request : Request) (caller : Caller) (read : Phase)
  /-- To declare the session stable, because the queue was found empty. -/
  | settling
  /-- To send the request that was taken out of the queue. -/
  | replaying (a : Accepted) (interval : Duration)
  /-- To put back or discard the request that the engine has refused. -/
  | returning (a : Accepted) (cause : EngineError) (interval : Duration)
  /-- To move the requests in flight back to the queue, after their session was marked as lost. -/
  | restoring

inductive EpochSection where
  | opening (caller : Caller)
  | connecting (caller : Caller)
  /-- To take back the phase of a CONNECT that could not be sent. -/
  | reverting
  | closing (caller : Caller) (previous : Phase)
  | disconnecting (caller : Caller) (previous : Phase)
  /-- To give up the attempt that the broker has refused. -/
  | refusing
  | reopening
  | reconnecting

/-- The least that one side does while the others wait, or hold locks that it does not need. -/
inductive Piece where
  | request (request : Request) (caller : Caller)
  | configureQueue (capacity : Int) (policy : DropPolicy)
  /-- The consumer starts to send the head of the queue. -/
  | drain
  /-- The consumer starts to move the requests of a lost session. -/
  | lose
  | connect (caller : Caller)
  | disconnect (caller : Caller)
  /-- The consumer starts to give up a refused attempt. -/
  | refuse
  /-- The supervisor starts to connect. -/
  | attempt
  /-- Whoever holds the lock of the queue goes on. -/
  | onQueue (engine : Engine) (now : Instant)
  /-- Whoever holds the lock of the epoch goes on. -/
  | onEpoch (engine : Engine)
  /-- All that takes no lock. -/
  | free (a : Act)

namespace Session

/-! ### Under the lock of the queue -/

def enterRequest (request : Request) (caller : Caller) (s : Session) :
    Session × Option QueueSection :=
  if (request.withListener caller.listener).hasValidTopic then
    (s, some (.routing request caller s.phase))
  else (s, none)

/-- Sends or parks a request by a phase that was read before. -/
def routeBy (read : Phase) (engine : Engine) (request : Request) (caller : Caller) (s : Session) :
    Session :=
  { ({ s with phase := read }.route engine request caller).2 with phase := s.phase }

def enterDrain (s : Session) : Session × Option QueueSection :=
  match s.consumer.chores with
  | .drainOne interval :: rest =>
    let s := s.withChores rest
    match s.queue.pop with
    | none => (s, some .settling)
    | some (a, queue) => ({ s with queue }, some (.replaying a interval))
  | _ => (s, none)

def declareStable (s : Session) : Session :=
  let s := if s.phase.accepts .stable then
      { s.writePhase .stable with backoff := s.backoff.startTimer }
    else s
  s.withRecovery none

def giveBack (a : Accepted) (cause : EngineError) (s : Session) : Session :=
  if cause.isTransient then { s with queue := s.queue.restore [a] }
  else s.respond .queued (a.request.onAck.map .pooled) .discarded

def enterLoss (s : Session) : Session × Option QueueSection :=
  match s.consumer.chores with
  | .loseSession :: rest =>
    ((s.withChores rest).writePhase .abnormalDisconnect, some .restoring)
  | _ => (s, none)

/-- What is left to do of a lost session once its phase was written. -/
def restoreLost (s : Session) : Session := { s.loseSession with phase := s.phase }

/-! ### Under the lock of the epoch -/

def enterConnect (caller : Caller) (s : Session) : Session × Option EpochSection :=
  if s.phase.acceptsConnect then (s, some (.opening caller)) else (s, none)

def enterDisconnect (caller : Caller) (s : Session) : Session × Option EpochSection :=
  ({ s with epoch := s.epoch + 1 }, some (.closing caller s.phase))

def enterRefusal (s : Session) : Session × Option EpochSection :=
  match s.consumer.chores with
  | .refuse :: rest =>
    let s := (s.withChores rest).withRecovery none
    if s.phase = .connecting then (s, some .refusing) else (s, none)
  | _ => (s, none)

def enterAttempt (s : Session) : Session × Option EpochSection :=
  match s.supervisor with
  | .attempting expected _ =>
    if s.interrupted then (s, none)
    else if s.epoch = expected ∧ s.phase ≠ .userDisconnect then (s, some .reopening)
    else ({ s with supervisor := .idle }, none)
  | _ => (s, none)

def openConnection (s : Session) : Session :=
  { s.writePhase .connecting with epoch := s.epoch + 1 }

def giveUp (s : Session) : Session :=
  let s := { s.writePhase .idle with epoch := s.epoch + 1 }
  if s.consumer.halted then s else s.withChores ([.stopTimer, .stopIo] ++ s.consumer.chores)

end Session

/-- The next piece of a section, and what is left of the section after it. -/
def QueueSection.go (engine : Engine) (now : Instant) (s : Session) :
    QueueSection → Session × Option QueueSection
  | routing request caller read => (s.routeBy read engine request caller, none)
  | settling => (s.declareStable, none)
  | replaying a interval =>
    match s.issue engine a (a.request.onAck.map .pooled) with
    | (.ok _, s) => (s.scheduleTick now interval, none)
    | (.error cause, s) => (s, some (returning a cause interval))
  | returning a cause interval => ((s.giveBack a cause).scheduleTick now interval, none)
  | restoring => (s.restoreLost, none)

def EpochSection.go (engine : Engine) (s : Session) :
    EpochSection → Session × Option EpochSection
  | opening caller => (s.openConnection, some (connecting caller))
  | connecting caller =>
    match s.sendConnect engine caller.responder with
    | (.ok _, s) => (s, none)
    | (.error _, s) => (s, some reverting)
  | reverting => (s.writePhase .idle, none)
  | closing caller previous =>
    ((s.writePhase .userDisconnect).stopTimer, some (disconnecting caller previous))
  | disconnecting caller previous =>
    if previous.isConnected then
      match s.sendDisconnect engine caller.responder with
      | (.ok _, s) => (s, none)
      | (.error _, s) => (s.disconnectLocally caller.responder, none)
    else (s.disconnectLocally caller.responder, none)
  | refusing => (s.giveUp, none)
  | reopening => (s.openConnection, some reconnecting)
  | reconnecting =>
    match s.sendConnect engine none with
    | (.ok _, s) => ({ s with supervisor := .idle }, none)
    | (.error _, s) => ({ s with supervisor := .engaged s.epoch }, none)

def QueueSection.isConsumers : QueueSection → Bool
  | routing .. => false
  | _ => true

def EpochSection.isConsumers : EpochSection → Bool
  | refusing => true
  | _ => false

/-- A session, and who holds its locks. -/
structure Contention where
  session : Session
  queueLock : Option QueueSection := none
  epochLock : Option EpochSection := none

namespace Contention

def consumerHolds (c : Contention) : Bool :=
  c.queueLock.any QueueSection.isConsumers || c.epochLock.any EpochSection.isConsumers

def isLocked (c : Contention) : Chore → Bool
  | .drainOne _ | .loseSession | .refuse => true
  | .readEpoch _ => c.epochLock.isSome
  | _ => false

/-- Whether an act takes no lock that is held, and has no section. -/
def isFree (c : Contention) : Act → Bool
  | .move m _ =>
    match m.step with
    | .adjust _ | .report _ | .expire _ => true
    | .supervise _ => c.session.interrupted || !(c.session.supervisor matches .attempting ..)
    | _ => false
  | .turn _ => !c.consumerHolds
  | .work .. => !c.consumerHolds && !c.session.consumer.chores.head?.any c.isLocked

def lockQueue (c : Contention) (enter : Session → Session × Option QueueSection) : Contention :=
  if c.queueLock.isSome then c
  else { c with session := (enter c.session).1, queueLock := (enter c.session).2 }

def lockEpoch (c : Contention) (enter : Session → Session × Option EpochSection) : Contention :=
  if c.epochLock.isSome then c
  else { c with session := (enter c.session).1, epochLock := (enter c.session).2 }

/-- What comes of a piece. Whoever needs a lock that is held does nothing yet. -/
def after (p : Piece) (c : Contention) : Contention :=
  match p with
  | .request request caller => c.lockQueue (Session.enterRequest request caller)
  | .configureQueue capacity policy =>
    c.lockQueue fun s => (s.configureQueue capacity policy, none)
  | .drain => if c.consumerHolds then c else c.lockQueue Session.enterDrain
  | .lose => if c.consumerHolds then c else c.lockQueue Session.enterLoss
  | .connect caller => c.lockEpoch (Session.enterConnect caller)
  | .disconnect caller => c.lockEpoch (Session.enterDisconnect caller)
  | .refuse => if c.consumerHolds then c else c.lockEpoch Session.enterRefusal
  | .attempt => c.lockEpoch Session.enterAttempt
  | .onQueue engine now =>
    match c.queueLock with
    | some held =>
      { c with session := (held.go engine now c.session).1
               queueLock := (held.go engine now c.session).2 }
    | none => c
  | .onEpoch engine =>
    match c.epochLock with
    | some held =>
      { c with session := (held.go engine c.session).1, epochLock := (held.go engine c.session).2 }
    | none => c
  | .free a => if c.isFree a then { c with session := c.session.act a } else c

def run : List Piece → Contention → Contention
  | [], c => c
  | p :: rest, c => run rest (c.after p)

theorem run_append (first second : List Piece) (c : Contention) :
    run (first ++ second) c = run second (run first c) := by
  induction first generalizing c with
  | nil => rfl
  | cons p rest ih => exact ih (c.after p)

end Contention

/-! ### Uninterrupted sections -/

def Act.pieces (s : Session) (a : Act) : List Piece :=
  match a with
  | .move m _ =>
    match m.step with
    | .connect caller => [.connect caller, .onEpoch m.engine, .onEpoch m.engine, .onEpoch m.engine]
    | .disconnect caller => [.disconnect caller, .onEpoch m.engine, .onEpoch m.engine]
    | .request request caller => [.request request caller, .onQueue m.engine 0]
    | .configureQueue capacity policy => [.configureQueue capacity policy]
    | .supervise _ =>
      if s.interrupted || !(s.supervisor matches .attempting ..) then [.free a]
      else [.attempt, .onEpoch m.engine, .onEpoch m.engine]
    | _ => [.free a]
  | .turn _ => [.free a]
  | .work engine now =>
    match s.consumer.chores with
    | .drainOne _ :: _ => [.drain, .onQueue engine now, .onQueue engine now]
    | .loseSession :: _ => [.lose, .onQueue engine now]
    | .refuse :: _ => [.refuse, .onEpoch engine]
    | _ => [.free a]

namespace Session

variable {engine : Engine} {now : Instant} {s : Session}

theorem routeBy_phase (request : Request) (caller : Caller) (s : Session) :
    s.routeBy s.phase engine request caller = (s.route engine request caller).2 := by
  have routed : Routed engine _ _ s (s.route engine request caller) := route_routed request caller s
  change { (s.route engine request caller).2 with phase := s.phase } = _
  generalize s.route engine request caller = result at routed ⊢
  cases routed <;> rfl

theorem route_invalid (request : Request) (caller : Caller)
    (invalid : (request.withListener caller.listener).hasValidTopic = false) :
    (s.route engine request caller).2 = s := by
  simp only [route, invalid, Bool.not_false, ↓reduceIte]

theorem work_plain {chore : Chore} {rest : List Chore} {t : Session}
    (chores : s.consumer.chores = chore :: rest)
    (performed : perform engine now chore (s.withChores rest) = ([], t)) :
    s.work engine now = t := by
  have working : s.work engine now =
      if (perform engine now chore (s.withChores rest)).2.consumer.halted then
        (perform engine now chore (s.withChores rest)).2
      else (perform engine now chore (s.withChores rest)).2.withChores
        ((perform engine now chore (s.withChores rest)).1 ++
          (perform engine now chore (s.withChores rest)).2.consumer.chores) := by
    unfold work
    rw [chores]
    rfl
  rw [working, performed]
  simp only [List.nil_append, withChores, ite_self]

end Session

namespace Contention

open Session

variable {engine : Engine} {now : Instant} {s : Session}

theorem run_connect (caller : Caller) (s : Session) :
    run [.connect caller, .onEpoch engine, .onEpoch engine, .onEpoch engine] ⟨s, none, none⟩ =
      ⟨(s.connect engine caller).2, none, none⟩ := by
  have entered : run [.connect caller, .onEpoch engine, .onEpoch engine, .onEpoch engine]
      ⟨s, none, none⟩ = run [.onEpoch engine, .onEpoch engine, .onEpoch engine]
        ⟨(enterConnect caller s).1, none, (enterConnect caller s).2⟩ := rfl
  have asked : s.connect engine caller =
      if s.phase.acceptsConnect then
        match s.openConnection.sendConnect engine caller.responder with
        | (.ok id, s) => (.ok id, s)
        | (.error cause, s) => (.error (.refused .connect cause), s.writePhase .idle)
      else (.error (.invalidState .connect s.phase), s) := rfl
  rw [entered, enterConnect, asked]
  cases allowed : s.phase.acceptsConnect with
  | false => rfl
  | true =>
    cases sent : s.openConnection.sendConnect engine caller.responder with
    | mk answer t =>
      cases answer <;> simp only [run, after, EpochSection.go, ↓reduceIte, sent]

theorem run_disconnect (caller : Caller) (s : Session) :
    run [.disconnect caller, .onEpoch engine, .onEpoch engine] ⟨s, none, none⟩ =
      ⟨(s.disconnect engine caller).2, none, none⟩ := by
  have entered : run [.disconnect caller, .onEpoch engine, .onEpoch engine] ⟨s, none, none⟩ =
      run [.onEpoch engine] ⟨({ s with epoch := s.epoch + 1 }.writePhase .userDisconnect).stopTimer,
        none, some (.disconnecting caller s.phase)⟩ := rfl
  have asked : s.disconnect engine caller =
      let closed := ({ s with epoch := s.epoch + 1 }.writePhase .userDisconnect).stopTimer
      if s.phase.isConnected then
        match closed.sendDisconnect engine caller.responder with
        | (.ok id, s) => (.ok id, s)
        | (.error _, s) => (.ok .disconnect, s.disconnectLocally caller.responder)
      else (.ok .disconnect, closed.disconnectLocally caller.responder) := rfl
  rw [entered, asked]
  generalize ({ s with epoch := s.epoch + 1 }.writePhase .userDisconnect).stopTimer = closed
  cases up : s.phase.isConnected with
  | false => simp only [run, after, EpochSection.go, up, Bool.false_eq_true, ↓reduceIte]
  | true =>
    cases sent : closed.sendDisconnect engine caller.responder with
    | mk answer t =>
      cases answer <;> simp only [run, after, EpochSection.go, up, ↓reduceIte, sent]

theorem run_request (request : Request) (caller : Caller) (s : Session) :
    run [.request request caller, .onQueue engine now] ⟨s, none, none⟩ =
      ⟨(s.route engine request caller).2, none, none⟩ := by
  have entered : run [.request request caller, .onQueue engine now] ⟨s, none, none⟩ =
      run [.onQueue engine now]
        ⟨(enterRequest request caller s).1, (enterRequest request caller s).2, none⟩ := rfl
  rw [entered, enterRequest]
  cases valid : (request.withListener caller.listener).hasValidTopic with
  | false =>
    rw [route_invalid request caller valid]
    rfl
  | true => simp only [run, after, QueueSection.go, ↓reduceIte, routeBy_phase]

theorem run_drain {interval : Duration} {rest : List Chore}
    (chores : s.consumer.chores = .drainOne interval :: rest) :
    run [.drain, .onQueue engine now, .onQueue engine now] ⟨s, none, none⟩ =
      ⟨s.work engine now, none, none⟩ := by
  rw [work_plain (t := (s.withChores rest).drainOne engine now interval) chores rfl]
  have entered : run [.drain, .onQueue engine now, .onQueue engine now] ⟨s, none, none⟩ =
      run [.onQueue engine now, .onQueue engine now]
        ⟨(enterDrain s).1, (enterDrain s).2, none⟩ := rfl
  rw [entered, enterDrain, chores]
  simp only
  generalize s.withChores rest = s
  unfold drainOne
  cases popped : s.queue.pop with
  | none => rfl
  | some taken =>
    obtain ⟨a, queue⟩ := taken
    cases sent : ({ s with queue } : Session).issue engine a (a.request.onAck.map .pooled) with
    | mk answer t =>
      cases answer with
      | ok id => simp only [run, after, QueueSection.go, sent, replayHead]
      | error cause => simp only [run, after, QueueSection.go, sent, replayHead, giveBack]

theorem run_lose {rest : List Chore} (chores : s.consumer.chores = .loseSession :: rest) :
    run [.lose, .onQueue engine now] ⟨s, none, none⟩ = ⟨s.work engine now, none, none⟩ := by
  rw [work_plain (t := (s.withChores rest).loseSession) chores rfl]
  have entered : run [.lose, .onQueue engine now] ⟨s, none, none⟩ =
      run [.onQueue engine now] ⟨(enterLoss s).1, (enterLoss s).2, none⟩ := rfl
  rw [entered, enterLoss, chores]
  simp only
  generalize s.withChores rest = s
  have same : (s.writePhase .abnormalDisconnect).restoreLost = s.loseSession := by
    rw [restoreLost, loseSession_eq, loseSession_eq]
    rfl
  simp only [run, after, QueueSection.go, same]

theorem run_refuse {rest : List Chore} (chores : s.consumer.chores = .refuse :: rest) :
    run [.refuse, .onEpoch engine] ⟨s, none, none⟩ = ⟨s.work engine now, none, none⟩ := by
  have entered : run [.refuse, .onEpoch engine] ⟨s, none, none⟩ =
      run [.onEpoch engine] ⟨(enterRefusal s).1, none, (enterRefusal s).2⟩ := rfl
  have working : s.work engine now =
      if (s.withChores rest).refuse.2.consumer.halted then (s.withChores rest).refuse.2
      else (s.withChores rest).refuse.2.withChores
        ((s.withChores rest).refuse.1 ++ (s.withChores rest).refuse.2.consumer.chores) := by
    unfold work
    rw [chores]
    rfl
  rw [entered, enterRefusal, chores, working]
  simp only
  generalize s.withChores rest = s
  by_cases connecting : s.phase = .connecting
  · have here : (s.withRecovery none).phase = .connecting := connecting
    simp only [refuse, here, ↓reduceIte]
    rfl
  · have elsewhere : (s.withRecovery none).phase ≠ .connecting := connecting
    simp only [refuse, elsewhere, ↓reduceIte, List.nil_append]
    exact (congrArg (Contention.mk · none none) (ite_self _)).symm

theorem run_attempt {expected : Nat} {slept : Duration} (running : s.interrupted = false)
    (attempting : s.supervisor = .attempting expected slept) :
    run [.attempt, .onEpoch engine, .onEpoch engine] ⟨s, none, none⟩ =
      ⟨s.supervise engine now, none, none⟩ := by
  have entered : run [.attempt, .onEpoch engine, .onEpoch engine] ⟨s, none, none⟩ =
      run [.onEpoch engine, .onEpoch engine] ⟨(enterAttempt s).1, none, (enterAttempt s).2⟩ := rfl
  rw [entered, enterAttempt, supervise, attempt, attempting]
  simp only [running, Bool.false_eq_true, ↓reduceIte]
  by_cases current : s.epoch = expected ∧ s.phase ≠ .userDisconnect
  · rw [if_pos current, if_pos current]
    cases sent : s.openConnection.sendConnect engine none with
    | mk answer t =>
      have same : ({ s.writePhase .connecting with epoch := s.epoch + 1 } : Session).sendConnect
          engine none = (answer, t) := sent
      cases answer <;> simp only [run, after, EpochSection.go, sent, same]
  · rw [if_neg current, if_neg current]
    rfl

/-- Sections that nobody interrupts make up the act. -/
theorem run_pieces (a : Act) (s : Session) :
    run (a.pieces s) ⟨s, none, none⟩ = ⟨s.act a, none, none⟩ := by
  cases a with
  | move m others =>
    obtain ⟨step, engine⟩ := m
    cases step with
    | connect caller => exact run_connect caller s
    | disconnect caller => exact run_disconnect caller s
    | request request caller => exact run_request request caller s
    | configureQueue capacity policy => rfl
    | adjust adjustment => rfl
    | report report => rfl
    | dispatch now => exact absurd others.symm Bool.false_ne_true
    | tick now => exact absurd others.symm Bool.false_ne_true
    | supervise now =>
      have free (alone : (s.interrupted || !(s.supervisor matches .attempting ..)) = true) :
          run (Act.pieces s (.move ⟨.supervise now, engine⟩ others)) ⟨s, none, none⟩ =
            ⟨s.supervise engine now, none, none⟩ := by
        have pieces : Act.pieces s (.move ⟨.supervise now, engine⟩ others) =
            [.free (.move ⟨.supervise now, engine⟩ others)] := if_pos alone
        rw [pieces]
        exact if_pos alone
      cases interrupted : s.interrupted with
      | true => exact free (by rw [interrupted]; rfl)
      | false =>
        cases stage : s.supervisor with
        | attempting expected slept =>
          have pieces : Act.pieces s (.move ⟨.supervise now, engine⟩ others) =
              [.attempt, .onEpoch engine, .onEpoch engine] := by
            simp only [Act.pieces, interrupted, stage, Bool.not_true, Bool.or_false,
              Bool.false_eq_true, ↓reduceIte]
          rw [pieces]
          exact run_attempt interrupted stage
        | _ => exact free (by rw [stage]; exact Bool.or_true _)
    | expire timer => rfl
  | turn now => rfl
  | work engine now =>
    have free (unlocked : s.consumer.chores.head?.any (isLocked ⟨s, none, none⟩) = false) :
        run [.free (.work engine now)] ⟨s, none, none⟩ = ⟨s.work engine now, none, none⟩ := by
      simp only [run, after, isFree, consumerHolds, Option.any_none, Bool.or_self, Bool.not_false,
        Bool.true_and, unlocked, ↓reduceIte]
      rfl
    unfold Act.pieces
    cases chores : s.consumer.chores with
    | nil => exact free (by rw [chores]; rfl)
    | cons chore rest =>
      cases chore with
      | drainOne interval => exact run_drain chores
      | loseSession => exact run_lose chores
      | refuse => exact run_refuse chores
      | _ => exact free (by rw [chores]; rfl)

theorem run_acted (acts : List Act) (s : Session) :
    ∃ pieces, run pieces ⟨s, none, none⟩ = ⟨acted acts s, none, none⟩ := by
  induction acts generalizing s with
  | nil => exact ⟨[], rfl⟩
  | cons a rest ih =>
    obtain ⟨later, run_later⟩ := ih (s.act a)
    exact ⟨a.pieces s ++ later, by rw [run_append, run_pieces, run_later]; rfl⟩

end Contention

end DurableMqtt
