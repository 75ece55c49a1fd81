import DurableMqtt.Proofs.Run.ConnectAnswer

/-!
Who leads an accepted session to stability.

The phase of a session says that its subscriptions or its parked requests are being sent again, and
the consumer's recovery says what comes next. The two are written at different places, and they
agree as long as no CONNACK comes in between: one that the phase has no use for takes the recovery
with it, and the session is left to itself.
-/

namespace DurableMqtt

/-- An accepted session is on its way to stability. -/
def Phase.isPaced : Phase → Bool
  | resubscribing | draining => true
  | _ => false

theorem Phase.unpaced_of_unconnected {p : Phase} (unconnected : p.isConnected = false) :
    p.isPaced = false := by
  cases p <;> first | rfl | exact absurd unconnected.symm Bool.false_ne_true

namespace Session

/-- The consumer knows what comes next for a session that is on its way to stability. -/
structure IsLed (s : Session) : Prop where
  resubscribing : s.phase = .resubscribing → ∃ unsent outstanding nextTick,
    s.consumer.recovery = some ⟨.resubscribing unsent outstanding, nextTick⟩ ∧
      (unsent ≠ [] ∨ outstanding ≠ 0)
  draining : s.phase = .draining → ∃ nextTick, s.consumer.recovery = some ⟨.draining, nextTick⟩

def IsOrphaned (s : Session) : Prop := s.consumer.halted = false ∧ ¬s.IsLed

def stillStray (m : Move) (s : Session) (stray : Bool) : Bool :=
  s.phase.isPaced && (s.after m).phase.isPaced && (stray || (connack? m s).isSome)

/-- Whether a CONNACK has been dispatched since the session was accepted, after a run. -/
def strayAfter : List Move → Session → Bool → Bool
  | [], _, stray => stray
  | m :: rest, s, stray => strayAfter rest (s.after m) (stillStray m s stray)

structure Stranded (s : Session) : Prop where
  paced : s.phase.isPaced = true
  unled : s.consumer.recovery = none

variable {s t : Session} {m : Move} {engine : Engine} {now : Instant}

theorem Stranded.orphaned (stranded : Stranded s) (running : s.consumer.halted = false) :
    IsOrphaned s := by
  refine ⟨running, fun led => ?_⟩
  have paced := stranded.paced
  cases phase : s.phase with
  | resubscribing =>
    obtain ⟨unsent, outstanding, nextTick, held, -⟩ := led.resubscribing phase
    exact absurd (stranded.unled.symm.trans held) (Option.some_ne_none _).symm
  | draining =>
    obtain ⟨nextTick, held⟩ := led.draining phase
    exact absurd (stranded.unled.symm.trans held) (Option.some_ne_none _).symm
  | _ => simp [phase, Phase.isPaced] at paced

theorem HungUp.unconnected {code : UInt8} (hungUp : HungUp code s t) :
    t.phase.isConnected = false := by
  cases hungUp with
  | lost established => rfl
  | closed phase | idle phase | connecting phase => simp [phase, Phase.isConnected]

namespace IsLed

theorem of_unpaced (unpaced : s.phase.isPaced = false) : IsLed s where
  resubscribing := fun phase => by simp [phase, Phase.isPaced] at unpaced
  draining := fun phase => by simp [phase, Phase.isPaced] at unpaced

theorem of_same (led : IsLed s) (phase : t.phase = s.phase)
    (recovery : t.consumer.recovery = s.consumer.recovery) : IsLed t where
  resubscribing := by
    rw [phase, recovery]
    exact led.resubscribing
  draining := by
    rw [phase, recovery]
    exact led.draining

theorem of_unsettled {unsent : List Subscription} {outstanding : Nat} {nextTick : Instant}
    (phase : s.phase = .resubscribing)
    (recovery : s.consumer.recovery = some ⟨.resubscribing unsent outstanding, nextTick⟩)
    (unsettled : Recovery.isSettled ⟨.resubscribing unsent outstanding, nextTick⟩ = false) :
    IsLed s where
  resubscribing := by
    intro
    refine ⟨unsent, outstanding, nextTick, recovery, ?_⟩
    by_contra settled
    obtain ⟨rfl, rfl⟩ : unsent = [] ∧ outstanding = 0 := by simpa using settled
    exact absurd unsettled.symm Bool.false_ne_true
  draining := fun other => absurd (phase.symm.trans other) Phase.noConfusion

theorem of_draining {nextTick : Instant} (phase : s.phase = .draining)
    (recovery : s.consumer.recovery = some ⟨.draining, nextTick⟩) : IsLed s where
  resubscribing := fun other => absurd (phase.symm.trans other) Phase.noConfusion
  draining := fun _ => ⟨nextTick, recovery⟩

theorem enterDraining (s : Session) : IsLed (s.enterDraining now) := by
  rw [enterDraining_eq]
  by_cases closed : s.phase = .userDisconnect
  · rw [if_pos closed]
    refine .of_unpaced ?_
    change s.phase.isPaced = false
    rw [closed]
    rfl
  · rw [if_neg closed]
    exact .of_draining rfl rfl

/-! ### Events -/

theorem settleResubscribe (led : IsLed s) : IsLed (s.settleResubscribe now) := by
  unfold Session.settleResubscribe
  cases stage : s.consumer.recovery with
  | none => exact led
  | some r =>
    simp only
    split
    · exact .enterDraining _
    next open' =>
      cases phase : s.phase with
      | resubscribing =>
        obtain ⟨unsent, outstanding, nextTick, held, -⟩ := led.resubscribing phase
        obtain rfl : r = _ := Option.some.inj (stage.symm.trans held)
        exact .of_unsettled phase rfl (Bool.eq_false_of_not_eq_true open')
      | draining =>
        obtain ⟨nextTick, held⟩ := led.draining phase
        obtain rfl : r = _ := Option.some.inj (stage.symm.trans held)
        exact .of_draining phase rfl
      | _ => exact .of_unpaced (by simp [withRecovery, phase, Phase.isPaced])

theorem acknowledge (led : IsLed s) (id : RequestId) (ack : Ack) :
    IsLed (s.acknowledge now id ack) := by
  unfold Session.acknowledge PendingTable.take?
  cases s.pending.find? id with
  | none => exact led
  | some entry =>
    simp only [Option.map_some, respond_eq]
    split
    · have taken : IsLed { s with
          pending := s.pending.erase id
          registry := s.registry.acknowledged entry.effect ack } := led.of_same rfl rfl
      exact taken.settleResubscribe.of_same rfl rfl
    · exact led.of_same rfl rfl

theorem welcome (s : Session) (connecting : s.phase = .connecting) : IsLed (s.welcome now) := by
  rw [welcome_eq, if_pos connecting]
  cases records : s.registry.records with
  | nil => exact .of_draining rfl rfl
  | cons record rest => exact .of_unsettled rfl rfl rfl

theorem handle (led : IsLed s) (e : Event)
    (kept : s.phase.isPaced = true → ∀ code, e.kind ≠ .connack code) : IsLed (s.handle now e) := by
  unfold Session.handle
  cases kind : e.kind with
  | connack code =>
    have unpaced : s.phase.isPaced = false :=
      Bool.eq_false_of_not_eq_true fun paced => kept paced code kind
    simp only [answer_eq]
    split
    · by_cases connecting : s.phase = .connecting
      · exact .welcome _ connecting
      · rw [welcome_eq, if_neg connecting]
        exact .of_unpaced unpaced
    · unfold turnAway
      by_cases connecting : s.phase = .connecting
      · rw [if_pos connecting]
        exact .of_unpaced (by simp [emit, Session.stopTimer, writePhase, withRecovery, connecting,
          Phase.write, Phase.accepts, Phase.isPaced])
      · rw [if_neg connecting]
        exact .of_unpaced unpaced
  | disconnect code => exact .of_unpaced (Phase.unpaced_of_unconnected (hangUp_hungUp code s).unconnected)
  | message m =>
    obtain ⟨consumer, effects, delivered, same, -⟩ := deliver_eq m s
    simp only [delivered]
    exact led.of_same rfl same
  | puback => exact led.acknowledge _ _
  | suback answer => exact led.acknowledge _ _
  | unsuback => exact led.acknowledge _ _

/-! ### Paced steps -/

theorem scheduleTick_running {interval : Duration} {r : Recovery}
    (held : s.consumer.recovery = some r)
    (running : (s.scheduleTick now interval).consumer.halted = false) :
    ∃ nextTick, s.scheduleTick now interval = s.withRecovery (some { r with nextTick }) := by
  unfold Session.scheduleTick at running ⊢
  rw [held] at running ⊢
  simp only at running ⊢
  cases next : now.after? interval with
  | none =>
    rw [next] at running
    exact absurd running.symm Bool.false_ne_true
  | some nextTick => exact ⟨nextTick, rfl⟩

theorem replayHead_aside (engine : Engine) (a : Accepted) (s : Session) :
    (s.replayHead engine a).phase = s.phase ∧ (s.replayHead engine a).consumer = s.consumer := by
  unfold replayHead
  rw [issue_eq]
  cases engine a.request.call with
  | ok number => exact ⟨rfl, rfl⟩
  | error cause =>
    simp only [respond_eq]
    split <;> exact ⟨rfl, rfl⟩

theorem drainOne {interval : Duration} {nextTick : Instant} (phase : s.phase = .draining)
    (held : s.consumer.recovery = some ⟨.draining, nextTick⟩)
    (running : (s.drainOne engine now interval).consumer.halted = false) :
    IsLed (s.drainOne engine now interval) := by
  unfold Session.drainOne at running ⊢
  cases popped : s.queue.pop with
  | none =>
    have opened : s.phase.accepts .stable = true := by rw [phase]; rfl
    simp only [opened, ↓reduceIte]
    refine .of_unpaced ?_
    simp only [withRecovery, writePhase, Phase.write, opened, ↓reduceIte]
    rfl
  | some head =>
    simp only [popped] at running ⊢
    obtain ⟨samePhase, sameConsumer⟩ := replayHead_aside engine head.1
      { s with queue := head.2 }
    have still := (congrArg Consumer.recovery sameConsumer).trans held
    obtain ⟨next, scheduled⟩ := scheduleTick_running still running
    rw [scheduled]
    exact .of_draining (samePhase.trans phase) rfl

theorem resubscribeNext_held (engine : Engine) {unsent : List Subscription} {outstanding : Nat}
    {nextTick : Instant}
    (held : s.consumer.recovery = some ⟨.resubscribing unsent outstanding, nextTick⟩) :
    ∃ rest left,
      (s.resubscribeNext engine ⟨.resubscribing unsent outstanding, nextTick⟩).phase = s.phase ∧
      (s.resubscribeNext engine ⟨.resubscribing unsent outstanding, nextTick⟩).consumer.recovery =
        some ⟨.resubscribing rest left, nextTick⟩ := by
  unfold resubscribeNext
  cases unsent with
  | nil => exact ⟨[], outstanding, rfl, held⟩
  | cons record rest =>
    simp only [resubscribe_eq]
    cases engine (.subscribe record.topic record.qos) <;> exact ⟨rest, _, rfl, rfl⟩

theorem resubscribeOne {interval : Duration} {unsent : List Subscription} {outstanding : Nat}
    {nextTick : Instant} (phase : s.phase = .resubscribing)
    (held : s.consumer.recovery = some ⟨.resubscribing unsent outstanding, nextTick⟩)
    (running : (s.resubscribeOne engine now interval).consumer.halted = false) :
    IsLed (s.resubscribeOne engine now interval) := by
  obtain ⟨rest, left, samePhase, sent⟩ := resubscribeNext_held engine held
  unfold Session.resubscribeOne at running ⊢
  simp only [held] at running ⊢
  generalize s.resubscribeNext engine ⟨.resubscribing unsent outstanding, nextTick⟩ = t
    at samePhase sent running ⊢
  split
  next halted =>
    rw [if_pos halted] at running
    exact absurd (running.symm.trans halted) Bool.false_ne_true
  next awake =>
    obtain ⟨next, scheduled⟩ := scheduleTick_running sent (Bool.eq_false_of_not_eq_true awake)
    rw [scheduled]
    split
    · exact .enterDraining _
    next unsettled =>
      exact .of_unsettled (samePhase.trans phase) rfl (Bool.eq_false_of_not_eq_true unsettled)

theorem paceNow (led : IsLed s) (running : (s.paceNow engine now).consumer.halted = false) :
    IsLed (s.paceNow engine now) := by
  cases phase : s.phase with
  | resubscribing =>
    obtain ⟨unsent, outstanding, nextTick, held, -⟩ := led.resubscribing phase
    have step : s.paceNow engine now = s.resubscribeOne engine now s.settings.drainingInterval := by
      simp only [Session.paceNow, phase, true_or, ↓reduceIte, held]
    rw [step] at running ⊢
    exact .resubscribeOne phase held running
  | draining =>
    obtain ⟨nextTick, held⟩ := led.draining phase
    have step : s.paceNow engine now = s.drainOne engine now s.settings.drainingInterval := by
      simp only [Session.paceNow, phase, or_true, ↓reduceIte, held]
    rw [step] at running ⊢
    exact .drainOne phase held running
  | _ => exact .of_unpaced (by simp [Session.paceNow, phase, withRecovery, Phase.isPaced])

theorem tick (led : IsLed s) (running : (s.tick engine now).consumer.halted = false) :
    IsLed (s.tick engine now) := by
  rw [tick_eq] at running ⊢
  by_cases due : (!s.consumer.halted && s.isDue now) = true
  · rw [if_pos due] at running ⊢
    exact led.paceNow running
  · rw [if_neg due]
    exact led

theorem after (led : IsLed s) (m : Move) (running : (s.after m).consumer.halted = false)
    (kept : s.phase.isPaced = true → connack? m s = none) : IsLed (s.after m) := by
  obtain ⟨step, engine⟩ := m
  have aside (others : (⟨step, engine⟩ : Move).isConsumers = false) :
      IsLed (s.after ⟨step, engine⟩) := by
    have consumer := after_consumer (s := s) ⟨step, engine⟩ others
    cases rephased ⟨step, engine⟩ others s with
    | same phase => exact led.of_same phase (congrArg Consumer.recovery consumer)
    | connects caller connects phase => exact .of_unpaced (by rcases phase with h | h <;> rw [h] <;> rfl)
    | attempts now supervises opened phase => exact .of_unpaced (by rw [phase]; rfl)
    | closes caller closes phase => exact .of_unpaced (by rw [phase]; rfl)
  cases step with
  | dispatch now =>
    change IsLed (s.dispatch engine now)
    cases next : s.nextEvent? with
    | none =>
      have idle : s.dispatch engine now = s := by simp only [dispatch, next]
      rw [idle]
      exact led
    | some e =>
      rw [dispatch_eq s next]
      have taken : IsLed { s with events := s.events.next.2 } := led.of_same rfl rfl
      refine taken.handle e fun paced code kind => ?_
      have seen : connack? ⟨.dispatch now, engine⟩ s = some code := by
        simp [connack?, dispatched?, next, kind]
      exact absurd ((kept paced).symm.trans seen) (Option.some_ne_none code).symm
  | tick now => exact led.tick running
  | _ => exact aside rfl

end IsLed

/-! ### Stranded sessions -/

namespace Stranded

theorem of_same (stranded : Stranded s) (phase : t.phase = s.phase)
    (recovery : t.consumer.recovery = none) : Stranded t where
  paced := by
    rw [phase]
    exact stranded.paced
  unled := recovery

theorem handled {e : Event} (stranded : Stranded s) (handled : Handled now e s t) :
    Stranded t ∧ t.phase = s.phase ∨ t.phase.isConnected = false := by
  have away : s.phase ≠ .connecting := by
    intro connecting
    exact absurd stranded.paced (by simp [connecting, Phase.isPaced])
  have stays (phase : t.phase = s.phase) (recovery : t.consumer.recovery = none) :
      Stranded t ∧ t.phase = s.phase ∨ t.phase.isConnected = false :=
    .inl ⟨stranded.of_same phase recovery, phase⟩
  cases handled with
  | welcomed kind connecting => exact absurd connecting away
  | turnedAway code kind refused connecting => exact absurd connecting away
  | unheeded code kind elsewhere => exact stays rfl rfl
  | hungUp code kind t hungUp => exact .inr hungUp.unconnected
  | unknown ack of unknown => exact stays rfl stranded.unled
  | acknowledged ack of entry found consumer kept =>
    have last : s.awaitsLast = false := by rw [awaitsLast, stranded.unled]; rfl
    refine stays ?_ ?_
    · simp only [last, Bool.and_false, Bool.false_eq_true, ↓reduceIte]
    · refine Option.not_isSome_iff_eq_none.mp fun up => ?_
      have held := kept up
      rw [stranded.unled] at held
      exact absurd held Bool.false_ne_true
  | delivered m kind consumer effects same hooks => exact stays rfl (same.trans stranded.unled)

/-- Nothing brings a stranded session to stability: it stays as it is until it is given up. -/
theorem after (stranded : Stranded s) (m : Move) :
    Stranded (s.after m) ∧ (s.after m).phase = s.phase ∨ (s.after m).phase.isConnected = false := by
  obtain ⟨step, engine⟩ := m
  have aside (others : (⟨step, engine⟩ : Move).isConsumers = false) :
      Stranded (s.after ⟨step, engine⟩) ∧ (s.after ⟨step, engine⟩).phase = s.phase ∨
        (s.after ⟨step, engine⟩).phase.isConnected = false := by
    have consumer := after_consumer (s := s) ⟨step, engine⟩ others
    have unled := (congrArg Consumer.recovery consumer).trans stranded.unled
    cases rephased ⟨step, engine⟩ others s with
    | same phase => exact .inl ⟨stranded.of_same phase unled, phase⟩
    | connects caller connects phase => exact .inr (by rcases phase with h | h <;> rw [h] <;> rfl)
    | attempts now supervises opened phase => exact .inr (by rw [phase]; rfl)
    | closes caller closes phase => exact .inr (by rw [phase]; rfl)
  cases step with
  | dispatch now =>
    have dispatched : Dispatched now s (s.dispatch engine now) := dispatch_dispatched s
    change Stranded (s.dispatch engine now) ∧ (s.dispatch engine now).phase = s.phase ∨
      (s.dispatch engine now).phase.isConnected = false
    generalize s.dispatch engine now = t at dispatched ⊢
    cases dispatched with
    | idle none => exact .inl ⟨stranded, rfl⟩
    | handled e next t handled =>
      have taken : Stranded { s with events := s.events.next.2 } := stranded.of_same rfl stranded.unled
      exact taken.handled handled
  | tick now =>
    have idle : s.isDue now = false := by rw [isDue, stranded.unled]; rfl
    have same : s.tick engine now = s := by
      rw [tick_eq, idle, Bool.and_false]
      rfl
    change Stranded (s.tick engine now) ∧ (s.tick engine now).phase = s.phase ∨ _
    rw [same]
    exact .inl ⟨stranded, rfl⟩
  | _ => exact aside rfl

/-- A CONNACK that the phase has no use for takes the recovery with it. -/
theorem of_connack {code : UInt8} (paced : s.phase.isPaced = true) (stray : connack? m s = some code) :
    Stranded (s.after m) := by
  have away : s.phase ≠ .connecting := by
    intro connecting
    exact absurd paced (by simp [connecting, Phase.isPaced])
  obtain ⟨step, engine⟩ := m
  cases step with
  | dispatch now =>
    obtain ⟨e, next, found⟩ := Option.bind_eq_some_iff.mp stray
    have kind : e.kind = .connack code := by
      split at found
      next kind => rw [kind, Option.some.inj found]
      next => exact absurd found.symm (Option.some_ne_none code)
    have handled := handle_handled now e { s with events := s.events.next.2 }
    change Stranded (s.dispatch engine now)
    rw [dispatch_eq s next]
    generalize Session.handle now e { s with events := s.events.next.2 } = t at handled ⊢
    cases handled with
    | welcomed kind connecting => exact absurd connecting away
    | turnedAway code kind refused connecting => exact absurd connecting away
    | unheeded code kind elsewhere => exact ⟨paced, rfl⟩
    | hungUp other ends t hungUp => simp [kind] at ends
    | unknown ack of unknown => simp [Event.ack?, kind] at of
    | acknowledged ack of entry found consumer kept => simp [Event.ack?, kind] at of
    | delivered m delivers consumer effects same hooks => simp [kind] at delivers
  | _ => exact absurd stray.symm (Option.some_ne_none code)

end Stranded

/-! ### Runs -/

structure Guided (s : Session) (stray : Bool) : Prop where
  led : s.consumer.halted = false → stray = false → IsLed s
  stranded : stray = true → Stranded s

theorem Guided.start (settings : Settings) : Guided (start settings) false where
  led := fun _ _ => .of_unpaced rfl
  stranded := fun stray => absurd stray Bool.false_ne_true

theorem running_of_after (m : Move) (running : (s.after m).consumer.halted = false) :
    s.consumer.halted = false := by
  refine Bool.eq_false_of_not_eq_true fun halted => ?_
  obtain ⟨step, engine⟩ := m
  have still : (s.after ⟨step, engine⟩).consumer = s.consumer := by
    cases step with
    | dispatch now =>
      change (s.dispatch engine now).consumer = s.consumer
      simp only [dispatch, nextEvent?, halted, ↓reduceIte]
    | tick now =>
      change (s.tick engine now).consumer = s.consumer
      simp only [tick, halted, ↓reduceIte]
    | _ => exact after_consumer _ rfl
  rw [still, halted] at running
  exact absurd running.symm Bool.false_ne_true

theorem Guided.after {stray : Bool} (guided : Guided s stray) (m : Move) :
    Guided (s.after m) (stillStray m s stray) := by
  constructor
  · intro running kept
    by_cases paced : (s.after m).phase.isPaced = true
    · have onTime : s.phase.isPaced = true → stray = false ∧ connack? m s = none := by
        intro before
        simpa [stillStray, before, paced] using kept
      have unstray : stray = false := by
        by_contra strayed
        have stranded := guided.stranded (Bool.eq_true_of_not_eq_false strayed)
        exact strayed (onTime stranded.paced).1
      exact (guided.led (running_of_after m running) unstray).after m running
        fun before => (onTime before).2
    · exact .of_unpaced (Bool.eq_false_of_not_eq_true paced)
  · intro strayed
    obtain ⟨⟨before, paced⟩, cause⟩ : (s.phase.isPaced = true ∧ (s.after m).phase.isPaced = true) ∧
        (stray = true ∨ (connack? m s).isSome = true) := by
      simpa [stillStray] using strayed
    rcases cause with already | now
    · rcases (guided.stranded already).after m with ⟨stranded, -⟩ | unconnected
      · exact stranded
      · have unpaced := Phase.unpaced_of_unconnected unconnected
        exact absurd (paced.symm.trans unpaced) Bool.false_ne_true.symm
    · obtain ⟨code, stray⟩ := Option.isSome_iff_exists.mp now
      exact .of_connack before stray

theorem Guided.run {stray : Bool} (guided : Guided s stray) (moves : List Move) :
    Guided (run moves s) (strayAfter moves s stray) := by
  induction moves generalizing s stray with
  | nil => exact guided
  | cons m rest ih => exact ih (guided.after m)

theorem Stranded.run (stranded : Stranded s) (moves : List Move)
    (kept : ∀ first, first <+: moves → (run first s).phase.isConnected = true) :
    (run moves s).phase = s.phase := by
  induction moves generalizing s with
  | nil => rfl
  | cons m rest ih =>
    have here := kept [m] (List.prefix_append [m] rest)
    rcases stranded.after m with ⟨next, same⟩ | unconnected
    · refine (ih next fun first before => ?_).trans same
      exact kept (m :: first) (List.cons_prefix_cons.mpr ⟨rfl, before⟩)
    · exact absurd (here.symm.trans unconnected) Bool.false_ne_true.symm

/-- The consumer loses the recovery of a session that is on its way to stability in just those runs
in which it has dispatched a CONNACK, of whatever code, since the session was accepted. Such a
session stays as it is as long as it is connected, and parks every request. -/
theorem orphaned_iff_stray (settings : Settings) (moves : List Move) :
    let s := run moves (start settings)
    (IsOrphaned s ↔
      s.consumer.halted = false ∧ strayAfter moves (start settings) false = true) ∧
    (IsOrphaned s → ∀ rest : List Move,
      (∀ first, first <+: rest → (run first s).phase.isConnected = true) →
        (run rest s).phase = s.phase) := by
  intro s
  have guided := (Guided.start settings).run moves
  have stray : IsOrphaned s → strayAfter moves (start settings) false = true := by
    rintro ⟨running, unled⟩
    by_contra kept
    exact unled (guided.led running (Bool.eq_false_of_not_eq_true kept))
  refine ⟨⟨fun orphaned => ⟨orphaned.1, stray orphaned⟩, ?_⟩, fun orphaned rest kept => ?_⟩
  · rintro ⟨running, strayed⟩
    exact (guided.stranded strayed).orphaned running
  · exact (guided.stranded (stray orphaned)).run rest kept

/-- A session is accepted twice while its only subscription is sent again. The acknowledgment of
that subscription then changes nothing. -/
def doublyAcceptedRun : List Move :=
  [⟨.connect (.notified none), numbering 1⟩, ⟨.report (.connack 0), numbering 1⟩,
   ⟨.dispatch 0, numbering 1⟩, ⟨.tick 0, numbering 1⟩,
   ⟨.request ⟨"t", .subscribe .atMostOnce ⟨"h"⟩, none⟩ (.notified none), numbering 1⟩,
   ⟨.report (.suback 1 (.granted .atMostOnce)), numbering 1⟩, ⟨.dispatch 0, numbering 1⟩,
   ⟨.disconnect (.notified none), numbering 1⟩, ⟨.report (.disconnect 0), numbering 1⟩,
   ⟨.dispatch 0, numbering 1⟩, ⟨.connect (.notified none), numbering 1⟩,
   ⟨.report (.connack 0), numbering 1⟩, ⟨.dispatch 0, numbering 1⟩, ⟨.tick 0, numbering 2⟩,
   ⟨.report (.connack 0), numbering 1⟩, ⟨.dispatch 0, numbering 1⟩,
   ⟨.report (.suback 2 (.granted .atMostOnce)), numbering 1⟩, ⟨.dispatch 0, numbering 1⟩,
   ⟨.tick 1000000000, numbering 3⟩]

theorem doublyAcceptedRun_orphaned :
    let s := run doublyAcceptedRun (start .standard)
    s.phase = .resubscribing ∧ s.pending.entries.length = 0 ∧ IsOrphaned s := by
  have phase : (run doublyAcceptedRun (start .standard)).phase = .resubscribing := by
    decide +kernel
  have unled : (run doublyAcceptedRun (start .standard)).consumer.recovery.isNone = true := by
    decide +kernel
  have running : (run doublyAcceptedRun (start .standard)).consumer.halted = false := by
    decide +kernel
  have stranded : Stranded (run doublyAcceptedRun (start .standard)) :=
    ⟨by rw [phase]; rfl, Option.isNone_iff_eq_none.mp unled⟩
  exact ⟨phase, by decide +kernel, stranded.orphaned running⟩

end Session

end DurableMqtt
