import DurableMqtt.Proofs.Run.Drained
import DurableMqtt.Proofs.Run.Locking

/-!
Stable sessions have nothing parked, whoever is interrupted by whom.

A session is declared stable under the lock of the queue only, and only if the queue was found empty
under that lock. While a request is parked or put back the phase can change, but not to stable.
-/

namespace DurableMqtt

namespace Session

variable {s t : Session} {engine : Engine} {now : Instant}

/-! ### Without the lock of the queue -/

namespace Apart

theorem refuse (s : Session) : Apart s s.refuse.2 := by
  unfold Session.refuse
  simp only
  split
  · exact write rfl rfl Phase.noConfusion
  · exact of_phase rfl rfl

theorem sendConnect (responder : Option Responder) (s : Session) :
    Apart s (s.sendConnect engine responder).2 := of_phase rfl rfl

theorem sendDisconnect (responder : Option Responder) (s : Session) :
    Apart s (s.sendDisconnect engine responder).2 := of_phase rfl rfl

theorem openConnection (s : Session) : Apart s s.openConnection :=
  write rfl rfl Phase.noConfusion

theorem giveUp (s : Session) : Apart s s.giveUp := by
  unfold Session.giveUp
  simp only
  split <;> exact write rfl rfl Phase.noConfusion

end Apart

theorem perform_apart (chore : Chore) (s : Session)
    (undrained : ∀ interval, chore ≠ .drainOne interval) (kept : chore ≠ .loseSession) :
    Apart s (perform engine now chore s).2 := by
  cases chore with
  | refuse => exact .refuse s
  | requestReconnect epoch => exact .of_phase rfl rfl
  | _ =>
    exact (perform_confined _ s Chore.noConfusion (fun _ => Chore.noConfusion) kept
      undrained).toApart

theorem work_apart (s : Session)
    (undrained : ∀ interval rest, s.consumer.chores ≠ .drainOne interval :: rest)
    (kept : ∀ rest, s.consumer.chores ≠ .loseSession :: rest) : Apart s (s.work engine now) := by
  unfold work
  cases chores : s.consumer.chores with
  | nil => exact .refl s
  | cons chore rest =>
    have performed : Apart s (perform engine now chore (s.withChores rest)).2 := by
      have taken : Apart s (s.withChores rest) := .of_phase rfl rfl
      refine taken.trans (perform_apart chore _ ?_ ?_)
      · rintro interval rfl
        exact undrained interval rest chores
      · rintro rfl
        exact kept rest chores
    change Apart s
      (if (perform engine now chore (s.withChores rest)).2.consumer.halted then _ else _)
    split
    · exact performed
    · exact performed.trans (.of_phase rfl rfl)

theorem supervise_apart (s : Session) : Apart s (s.supervise engine now) := by
  have supervised : Supervised engine s (s.supervise engine now) := supervise_supervised s
  generalize s.supervise engine now = t at supervised ⊢
  cases supervised with
  | connected slept number attempting opened taken =>
    exact ⟨rfl, fun stable => Phase.noConfusion stable⟩
  | refused slept cause attempting opened answer =>
    exact ⟨rfl, fun stable => Phase.noConfusion stable⟩
  | _ => exact .of_phase rfl rfl

theorem adjust_apart (adjustment : Adjustment) (s : Session) : Apart s (s.adjust adjustment) := by
  obtain ⟨settings, hooks, backoff, adjusted⟩ := adjust_eq adjustment s
  rw [adjusted]
  exact .of_phase rfl rfl

theorem enterConnect_apart (caller : Caller) (s : Session) : Apart s (enterConnect caller s).1 := by
  unfold enterConnect
  split <;> exact .refl s

theorem enterRefusal_apart (s : Session) : Apart s (enterRefusal s).1 := by
  unfold enterRefusal
  split
  · simp only
    split <;> exact .of_phase rfl rfl
  · exact .refl s

theorem enterAttempt_apart (s : Session) : Apart s (enterAttempt s).1 := by
  unfold enterAttempt
  split
  · split
    · exact .refl s
    · split <;> exact .of_phase rfl rfl
  · exact .refl s

/-! ### Under the lock of the queue -/

theorem routeBy_apart (read : Phase) (request : Request) (caller : Caller) (s : Session)
    (ready : read.isRecovering = false) :
    Apart s (s.routeBy read engine request caller) := by
  have routed : Routed engine _ _ { s with phase := read }
      ({ s with phase := read }.route engine request caller) :=
    route_routed request caller { s with phase := read }
  unfold routeBy
  generalize { s with phase := read }.route engine request caller = result at routed ⊢
  cases routed with
  | parked recovering => exact absurd (ready.symm.trans recovering) Bool.false_ne_true
  | evicting cause limit capacity full policy recovering =>
    exact absurd (ready.symm.trans recovering) Bool.false_ne_true
  | _ => exact .of_phase rfl rfl

theorem giveBack_phase (a : Accepted) (cause : EngineError) (s : Session) :
    (s.giveBack a cause).phase = s.phase := by
  unfold giveBack
  split
  · rfl
  · rw [respond_eq]

theorem enterLoss_unstable (s : Session) : (s.writePhase .abnormalDisconnect).phase ≠ .stable := by
  change s.phase.write .abnormalDisconnect ≠ .stable
  cases s.phase <;> decide

theorem drained_declareStable (empty : s.queue.items = []) : Drained s.declareStable := by
  intro _
  unfold declareStable
  simp only
  split <;> exact empty

end Session

open Session

variable {s t : Session} {c : Contention} {engine : Engine} {now : Instant}

theorem EpochSection.go_apart (held : EpochSection) (s : Session) :
    Apart s (held.go engine s).1 := by
  have connected (responder : Option Responder) : Apart s (s.sendConnect engine responder).2 :=
    .sendConnect responder s
  cases held with
  | opening caller => exact .openConnection s
  | connecting caller =>
    have sent := connected caller.responder
    unfold go
    simp only
    split <;> next same => rwa [same] at sent
  | reverting => exact .write rfl rfl Phase.noConfusion
  | closing caller previous => exact .write rfl rfl Phase.noConfusion
  | disconnecting caller previous =>
    have sent : Apart s (s.sendDisconnect engine caller.responder).2 :=
      .sendDisconnect caller.responder s
    unfold go
    simp only
    split
    · split
      next same => rwa [same] at sent
      next same =>
        rw [same] at sent
        exact sent.trans (.of_phase rfl rfl)
    · exact .of_phase rfl rfl
  | refusing => exact .giveUp s
  | reopening => exact .openConnection s
  | reconnecting =>
    have sent := connected none
    unfold go
    simp only
    split <;>
      next same =>
        rw [same] at sent
        exact sent.trans (.of_phase rfl rfl)

/-- What has to stay true while a section holds the lock of the queue. -/
def QueueSection.Admits (s : Session) : QueueSection → Prop
  | routing _ _ read =>
    (read.isRecovering = true → s.phase ≠ .stable) ∧ (read = .stable → s.queue.items = [])
  | settling => s.queue.items = []
  | replaying .. | returning .. | restoring => s.phase ≠ .stable

theorem QueueSection.Admits.apart {held : QueueSection} (admits : held.Admits s)
    (apart : Apart s t) : held.Admits t := by
  have unstable (before : s.phase ≠ .stable) : t.phase ≠ .stable := before ∘ apart.stable
  cases held with
  | routing request caller read =>
    refine ⟨fun recovering => unstable (admits.1 recovering), fun stable => ?_⟩
    rw [apart.queue]
    exact admits.2 stable
  | settling =>
    change t.queue.items = []
    rw [apart.queue]
    exact admits
  | _ => exact unstable admits

theorem Session.Drained.apart (drained : Drained s) (apart : Apart s t) : Drained t := by
  intro stable
  rw [apart.queue]
  exact drained (apart.stable stable)

namespace Contention

/-- Nobody finds a stable session with something parked, nor makes one. -/
structure Exclusive (c : Contention) : Prop where
  drained : Drained c.session
  held : ∀ held, c.queueLock = some held → held.Admits c.session

theorem Exclusive.start (settings : Settings) : Exclusive ⟨.start settings, none, none⟩ where
  drained := fun _ => rfl
  held := fun held locked => absurd locked.symm (Option.some_ne_none held)

/-- Whoever does not need the lock of the queue does not disturb who holds it. -/
theorem Exclusive.apart (exclusive : Exclusive c) (apart : Apart c.session t)
    (epochLock : Option EpochSection) : Exclusive ⟨t, c.queueLock, epochLock⟩ where
  drained := exclusive.drained.apart apart
  held := fun held locked => (exclusive.held held locked).apart apart

theorem free_apart {a : Act} (free : c.isFree a = true) : Apart c.session (c.session.act a) := by
  cases a with
  | move m others =>
    obtain ⟨step, engine⟩ := m
    cases step with
    | adjust adjustment => exact adjust_apart adjustment c.session
    | report report => exact .of_phase rfl rfl
    | expire timer => exact .of_phase rfl rfl
    | supervise now => exact supervise_apart c.session
    | _ => exact absurd free Bool.false_ne_true
  | turn now => exact (turn_confined c.session).toApart
  | work engine now =>
    have unlocked := (Bool.and_eq_true_iff.mp free).2
    refine work_apart c.session (fun interval rest chores => ?_) fun rest chores => ?_
    · rw [chores] at unlocked
      exact Bool.false_ne_true unlocked
    · rw [chores] at unlocked
      exact Bool.false_ne_true unlocked

def Continues (result : Session × Option QueueSection) : Prop :=
  Drained result.1 ∧ ∀ held, result.2 = some held → held.Admits result.1

theorem Continues.over (drained : Drained s) : Continues (s, none) :=
  ⟨drained, fun held locked => absurd locked.symm (Option.some_ne_none held)⟩

theorem Continues.holding {held : QueueSection} (drained : Drained s) (admits : held.Admits s) :
    Continues (s, some held) :=
  ⟨drained, fun _ locked => Option.some.inj locked ▸ admits⟩

theorem continues_request (request : Request) (caller : Caller) (drained : Drained s) :
    Continues (enterRequest request caller s) := by
  unfold enterRequest
  split
  · refine .holding drained ⟨fun recovering stable => ?_, drained⟩
    rw [stable] at recovering
    exact absurd recovering Bool.false_ne_true
  · exact .over drained

theorem continues_drain (drained : Drained s) : Continues (enterDrain s) := by
  unfold enterDrain
  split
  next interval rest chores =>
    have drained : Drained (s.withChores rest) := drained
    simp only [OfflineQueue.pop]
    cases items : (s.withChores rest).queue.items with
    | nil => exact .holding drained items
    | cons a others =>
      -- With something parked the session is not stable, and nobody else can make it so.
      have unstable : s.phase ≠ .stable := by
        intro stable
        cases items.symm.trans (drained stable)
      exact .holding (.aside unstable) unstable
  next => exact .over drained

theorem continues_loss (drained : Drained s) : Continues (enterLoss s) := by
  unfold enterLoss
  split
  next rest chores =>
    have unstable := enterLoss_unstable (s.withChores rest)
    exact .holding (.aside unstable) unstable
  next => exact .over drained

theorem continues_go (held : QueueSection) (drained : Drained s) (admits : held.Admits s) :
    Continues (held.go engine now s) := by
  cases held with
  | routing request caller read =>
    refine .over ?_
    -- What is parked is parked by the phase that was read, not by the one there is now.
    cases recovering : read.isRecovering with
    | true => exact .aside (admits.1 recovering)
    | false => exact drained.apart (routeBy_apart read request caller s recovering)
  | settling => exact .over (drained_declareStable admits)
  | replaying a interval =>
    have unstable : s.phase ≠ .stable := admits
    simp only [QueueSection.go, issue_eq]
    cases engine a.request.call with
    | ok number =>
      refine .over (.aside ?_)
      rw [scheduleTick_phase]
      exact unstable
    | error cause => exact .holding (.aside unstable) unstable
  | returning a cause interval =>
    refine .over (.aside ?_)
    rw [scheduleTick_phase, giveBack_phase]
    exact admits
  | restoring => exact .over (.aside admits)

theorem Exclusive.lockQueue (exclusive : Exclusive c)
    {enter : Session → Session × Option QueueSection} (continues : Continues (enter c.session)) :
    Exclusive (c.lockQueue enter) := by
  unfold Contention.lockQueue
  split
  · exact exclusive
  · exact ⟨continues.1, continues.2⟩

theorem Exclusive.lockEpoch (exclusive : Exclusive c)
    {enter : Session → Session × Option EpochSection}
    (apart : Apart c.session (enter c.session).1) :
    Exclusive (c.lockEpoch enter) := by
  unfold Contention.lockEpoch
  split
  · exact exclusive
  · exact exclusive.apart apart _

theorem Exclusive.unlessHeld {d : Contention} (exclusive : Exclusive c) (next : Exclusive d) :
    Exclusive (if c.consumerHolds then c else d) := by
  split
  · exact exclusive
  · exact next

theorem Exclusive.after (exclusive : Exclusive c) (p : Piece) : Exclusive (c.after p) := by
  have drained := exclusive.drained
  cases p with
  | request request caller => exact exclusive.lockQueue (continues_request request caller drained)
  | configureQueue capacity policy =>
    change Exclusive (c.lockQueue fun s => (s.configureQueue capacity policy, none))
    apply exclusive.lockQueue
    exact .over (drained.after ⟨.configureQueue capacity policy, numbering 0⟩)
  | drain => exact exclusive.unlessHeld (exclusive.lockQueue (continues_drain drained))
  | lose => exact exclusive.unlessHeld (exclusive.lockQueue (continues_loss drained))
  | connect caller => exact exclusive.lockEpoch (enterConnect_apart caller c.session)
  | disconnect caller => exact exclusive.lockEpoch (.of_phase rfl rfl)
  | refuse => exact exclusive.unlessHeld (exclusive.lockEpoch (enterRefusal_apart c.session))
  | attempt => exact exclusive.lockEpoch (enterAttempt_apart c.session)
  | onQueue engine now =>
    obtain ⟨s, queueLock, epochLock⟩ := c
    cases queueLock with
    | none => exact exclusive
    | some held =>
      have continues : Continues (held.go engine now s) :=
        continues_go held drained (exclusive.held held rfl)
      exact ⟨continues.1, continues.2⟩
  | onEpoch engine =>
    obtain ⟨s, queueLock, epochLock⟩ := c
    cases epochLock with
    | none => exact exclusive
    | some held => exact exclusive.apart (held.go_apart s) _
  | free a =>
    change Exclusive (if c.isFree a then _ else c)
    split
    next free => exact exclusive.apart (free_apart free) _
    next => exact exclusive

theorem Exclusive.run (exclusive : Exclusive c) (pieces : List Piece) :
    Exclusive (Contention.run pieces c) := by
  induction pieces generalizing c with
  | nil => exact exclusive
  | cons p rest ih => exact ih (exclusive.after p)

/-- What becomes of requests while others act. -/
structure StableDrained (c : Contention) : Prop where
  drained : c.session.phase = .stable → c.session.queue.items = []
  /-- A request that is about to go straight to the engine overtakes none that is parked, unless it
  was made while no session is wanted, for the engine to refuse. -/
  direct : ∀ request caller read, c.queueLock = some (.routing request caller read) →
    read.isRecovering = false → c.session.queue.items ≠ [] → read = .idle ∨ read = .userDisconnect
  /-- While a request is about to be parked, the session is not declared stable. -/
  parked : ∀ request caller read, c.queueLock = some (.routing request caller read) →
    read.isRecovering = true → c.session.phase ≠ .stable

/-- Whatever the sides do between the pieces of each other's sections, a stable session has nothing
parked. -/
theorem stable_drained (settings : Settings) (pieces : List Piece) :
    StableDrained (run pieces ⟨.start settings, none, none⟩) := by
  have exclusive := (Exclusive.start settings).run pieces
  generalize run pieces ⟨.start settings, none, none⟩ = c at exclusive
  constructor
  case drained => exact exclusive.drained
  case direct =>
    intro request caller read locked ready parked
    obtain ⟨-, empty⟩ := exclusive.held _ locked
    cases read with
    | idle => exact .inl rfl
    | userDisconnect => exact .inr rfl
    | stable => exact absurd (empty rfl) parked
    | _ => exact absurd ready.symm Bool.false_ne_true
  case parked =>
    intro request caller read locked recovering
    exact (exclusive.held _ locked).1 recovering

/-- A session is declared stable that the application has closed and asked for again since its queue
was found empty. Nothing is parked even then. -/
example :
    let c := run
      [.connect (.notified none), .onEpoch (numbering 1), .onEpoch (numbering 1),
       .free (.move ⟨.report (.connack 0), numbering 1⟩ rfl), .free (.turn 0),
       .free (.work (numbering 1) 0), .free (.work (numbering 1) 0), .free (.work (numbering 1) 0),
       .free (.work (numbering 1) 0), .drain,
       .disconnect (.notified none), .onEpoch (numbering 1), .onEpoch (numbering 1),
       .connect (.notified none), .onEpoch (numbering 1), .onEpoch (numbering 1),
       .onQueue (numbering 1) 0] ⟨.start .standard, none, none⟩
    c.session.phase = .stable ∧ c.session.epoch = 3 ∧ c.session.queue.items.length = 0 := by
  decide +kernel

end Contention

end DurableMqtt
