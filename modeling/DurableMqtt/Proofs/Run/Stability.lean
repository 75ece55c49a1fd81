import DurableMqtt.Proofs.Backoff
import DurableMqtt.Proofs.Run.Passage
import DurableMqtt.Proofs.Run.Drained

/-!
How the stability timer follows a session.

A session starts the timer when it becomes stable, and whatever takes it out of that phase stops the
timer, but for one step: an attempt of the supervisor leaves it alone. On the other hand the
supervisor stops the timer before it sleeps, whether or not the reconnect that it is about is still
wanted. So a timer that runs tells of a stable session unless the supervisor has connected over it,
and a stable session has a timer unless the supervisor has gone quiet.
-/

namespace DurableMqtt

/-- A timer that was started, not stopped since, and has not expired. -/
def Backoff.isRunning (b : Backoff) : Bool := b.armed && b.timers.any (·.generation == b.generation)

namespace Session

/-! ### What happens to a stable session -/

def settles (m : Move) (s : Session) : Bool := !s.phase.isStable && (s.after m).phase.isStable

def overtakes (m : Move) (s : Session) : Bool :=
  isSupervision m && s.phase.isStable && !(s.after m).phase.isStable

def expires (m : Move) (s : Session) : Bool :=
  match m.step with
  | .expire timer =>
    s.backoff.armed && decide (timer ∈ s.backoff.timers) && timer.generation == s.backoff.generation
  | _ => false

def fallsQuiet (m : Move) (s : Session) : Bool :=
  isSupervision m && !s.interrupted && s.supervisor matches .cancelling _

end Session

/-- What has happened since a session last became stable. -/
structure Spell where
  /-- The supervisor has connected over the session. -/
  overtaken : Bool := false
  /-- The timer has come to its end. -/
  expired : Bool := false
  /-- The supervisor has gone to sleep before that. -/
  silenced : Bool := false

namespace Spell

def next (m : Move) (s : Session) (spell : Spell) : Spell :=
  if Session.settles m s then {}
  else
    { overtaken := spell.overtaken || Session.overtakes m s
      expired := spell.expired || Session.expires m s
      silenced := spell.silenced || Session.fallsQuiet m s && !spell.expired }

def after : List Move → Session → Spell → Spell
  | [], _, spell => spell
  | m :: rest, s, spell => after rest (s.after m) (spell.next m s)

end Spell

namespace Session

variable {s t : Session} {m : Move} {engine : Engine} {now : Instant} {spell : Spell}

/-! ### What a step does to the timer -/

def SameTimer (b c : Backoff) : Prop :=
  c.armed = b.armed ∧ c.generation = b.generation ∧ c.timers = b.timers

theorem SameTimer.refl (b : Backoff) : SameTimer b b := ⟨rfl, rfl, rfl⟩

theorem SameTimer.isRunning {b c : Backoff} (same : SameTimer b c) : c.isRunning = b.isRunning := by
  obtain ⟨armed, generation, timers⟩ := same
  rw [Backoff.isRunning, Backoff.isRunning, armed, generation, timers]

inductive Clocked (m : Move) (s t : Session) : Prop where
  /-- The session is as stable as before, and nobody touches the timer. -/
  | still (stable : t.phase = .stable ↔ s.phase = .stable) (timer : SameTimer s.backoff t.backoff)
      (recovery : t.phase = .stable → t.isRecovering → s.isRecovering)
      (unexpired : expires m s = false) (awake : fallsQuiet m s = false)
  | settled (unstable : s.phase ≠ .stable) (stable : t.phase = .stable)
      (started : t.backoff = s.backoff.startTimer) (recovered : ¬t.isRecovering)
  | left (unstable : t.phase ≠ .stable) (stopped : t.backoff.armed = false)
  /-- The supervisor connects, and leaves the timer as it is. -/
  | attempted (supervision : isSupervision m = true) (unstable : t.phase ≠ .stable)
      (timer : SameTimer s.backoff t.backoff)
  | quieted (quiets : fallsQuiet m s = true) (phase : t.phase = s.phase)
      (stopped : t.backoff.armed = false) (recovery : t.isRecovering = s.isRecovering)
      (unexpired : expires m s = false)
  | ended (timer : StabilityTimer) (step : m.step = .expire timer) (phase : t.phase = s.phase)
      (expired : t.backoff = s.backoff.expire timer) (recovery : t.isRecovering = s.isRecovering)

theorem Clocked.of_same (phase : t.phase = s.phase) (timer : SameTimer s.backoff t.backoff)
    (recovery : t.isRecovering → s.isRecovering) (unexpired : expires m s = false)
    (awake : fallsQuiet m s = false) : Clocked m s t :=
  .still (by rw [phase]) timer (fun _ => recovery) unexpired awake

theorem Clocked.of_unstable (before : s.phase ≠ .stable) (after : t.phase ≠ .stable)
    (timer : SameTimer s.backoff t.backoff) (unexpired : expires m s = false)
    (awake : fallsQuiet m s = false) : Clocked m s t :=
  .still ⟨fun stable => absurd stable after, fun stable => absurd stable before⟩ timer
    (fun stable => absurd stable after) unexpired awake

theorem write_unstable {p next : Phase} (before : p ≠ .stable) (after : next ≠ .stable) :
    p.write next ≠ .stable := by
  unfold Phase.write
  split
  · exact after
  · exact before

theorem clocked_connect (caller : Caller) :
    Clocked ⟨.connect caller, engine⟩ s (s.connect engine caller).2 := by
  rw [connect_eq]
  split
  next free =>
    have before : s.phase ≠ .stable := by
      intro stable
      rw [stable] at free
      exact Bool.false_ne_true free
    split <;> exact .of_unstable before Phase.noConfusion (.refl _) rfl rfl
  next => exact .of_same rfl (.refl _) id rfl rfl

theorem clocked_disconnect (caller : Caller) :
    Clocked ⟨.disconnect caller, engine⟩ s (s.disconnect engine caller).2 := by
  rw [disconnect_eq]
  simp only
  split
  · split <;> exact .left Phase.noConfusion rfl
  · exact .left Phase.noConfusion rfl

theorem clocked_request (request : Request) (caller : Caller) :
    Clocked ⟨.request request caller, engine⟩ s (s.route engine request caller).2 := by
  have routed : Routed engine _ _ s (s.route engine request caller) := route_routed request caller s
  generalize s.route engine request caller = result at routed ⊢
  cases routed <;> exact .of_same rfl (.refl _) id rfl rfl

theorem clocked_adjust (adjustment : Adjustment) :
    Clocked ⟨.adjust adjustment, engine⟩ s (s.adjust adjustment) := by
  cases adjustment with
  | backoff base max stable =>
    simp only [adjust, configureBackoff]
    cases Timing.make base max stable with
    | ok timing => exact .of_same rfl ⟨rfl, rfl, rfl⟩ id rfl rfl
    | error cause => exact .of_same rfl (.refl _) id rfl rfl
  | _ => exact .of_same rfl (.refl _) id rfl rfl

theorem clocked_dispatch (recovered : s.phase = .stable → ¬s.isRecovering) :
    Clocked ⟨.dispatch now, engine⟩ s (s.dispatch engine now) := by
  have dispatched : Dispatched now s (s.dispatch engine now) := dispatch_dispatched s
  generalize s.dispatch engine now = t at dispatched ⊢
  cases dispatched with
  | idle none => exact .of_same rfl (.refl _) id rfl rfl
  | handled e next t handled =>
    cases handled with
    | welcomed kind connecting =>
      have before : s.phase ≠ .stable := by
        rw [show s.phase = .connecting from connecting]
        exact Phase.noConfusion
      refine .of_unstable before ?_ (.refl _) rfl rfl
      simp only
      split <;> exact Phase.noConfusion
    | turnedAway code kind refused connecting => exact .left Phase.noConfusion rfl
    | unheeded code kind elsewhere =>
      exact .of_same rfl (.refl _) (fun up => absurd up Bool.false_ne_true) rfl rfl
    | hungUp code kind t hungUp =>
      cases hungUp with
      | lost established => exact .left Phase.noConfusion rfl
      | connecting phase =>
        refine .left ?_ rfl
        rw [show s.phase = .connecting from phase]
        exact Phase.noConfusion
      | _ => exact .of_same rfl (.refl _) (fun up => absurd up Bool.false_ne_true) rfl rfl
    | unknown ack of unknown => exact .of_same rfl (.refl _) id rfl rfl
    | acknowledged ack of entry found consumer kept =>
      by_cases stable : s.phase = .stable
      · have settled : s.awaitsLast = false :=
          Bool.eq_false_of_not_eq_true fun last =>
            recovered stable (isRecovering_of_awaitsLast last)
        refine .of_same ?_ (.refl _) kept rfl rfl
        change (if entry.resubscribe && s.awaitsLast then s.phase.write .draining else s.phase) = _
        rw [settled, Bool.and_false]
        rfl
      · refine .of_unstable stable ?_ (.refl _) rfl rfl
        simp only
        split
        · exact write_unstable stable Phase.noConfusion
        · exact stable
    | delivered message kind consumer effects same hooks =>
      refine .of_same rfl (.refl _) (fun up => ?_) rfl rfl
      rw [isRecovering, ← show consumer.recovery = s.consumer.recovery from same]
      exact up

theorem scheduleTick_backoff (interval : Duration) :
    (s.scheduleTick now interval).backoff = s.backoff := by
  obtain ⟨consumer, scheduled, -⟩ := scheduleTick_eq now interval s
  rw [scheduled]

theorem replayHead_backoff (a : Accepted) : (s.replayHead engine a).backoff = s.backoff := by
  unfold replayHead
  rw [issue_eq]
  cases engine a.request.call with
  | ok number => rfl
  | error cause =>
    simp only
    split
    · rfl
    · rw [respond_eq]

theorem resubscribeNext_backoff (r : Recovery) :
    (s.resubscribeNext engine r).backoff = s.backoff := by
  unfold resubscribeNext
  split
  next record unsent outstanding stage =>
    simp only [resubscribe_eq, withRecovery]
    cases engine (.subscribe record.topic record.qos) <;> rfl
  next => rfl

theorem settleTick_backoff (interval : Duration) :
    (s.settleTick now interval).backoff = s.backoff := by
  unfold settleTick
  simp only
  split
  · exact scheduleTick_backoff interval
  · split
    · rw [enterDraining_eq]
      split <;> exact scheduleTick_backoff interval
    · exact scheduleTick_backoff interval

theorem open_of_recovering {p : Phase} (recovering : p = .resubscribing ∨ p = .draining) :
    p ≠ .stable ∧ p ≠ .userDisconnect := by
  rcases recovering with rfl | rfl <;> exact ⟨Phase.noConfusion, Phase.noConfusion⟩

theorem clocked_drainOne (interval : Duration)
    (recovering : s.phase = .resubscribing ∨ s.phase = .draining) :
    Clocked ⟨.tick now, engine⟩ s (s.drainOne engine now interval) := by
  obtain ⟨before, opened⟩ := open_of_recovering recovering
  have accepted : s.phase.accepts .stable = true := by
    rw [Phase.accepts, bne_iff_ne.mpr opened, Bool.true_or]
  unfold drainOne OfflineQueue.pop
  cases items : s.queue.items with
  | nil =>
    simp only [accepted, ↓reduceIte]
    exact .settled before (Phase.write_of_open _ _ opened) rfl Bool.false_ne_true
  | cons a rest =>
    refine .of_unstable before ?_ ?_ rfl rfl
    · simp only
      rw [scheduleTick_phase, replayHead_phase]
      exact before
    · simp only
      rw [scheduleTick_backoff, replayHead_backoff]
      exact .refl _

theorem clocked_resubscribeOne (interval : Duration) (before : s.phase ≠ .stable) :
    Clocked ⟨.tick now, engine⟩ s (s.resubscribeOne engine now interval) := by
  unfold resubscribeOne
  cases s.consumer.recovery with
  | none => exact .of_same rfl (.refl _) id rfl rfl
  | some r =>
    change Clocked _ s ((s.resubscribeNext engine r).settleTick now interval)
    refine .of_unstable before ?_ ?_ rfl rfl
    · rcases settleTick_phase now interval (s.resubscribeNext engine r) with same | draining
      · rw [same, resubscribeNext_phase]
        exact before
      · rw [draining]
        exact Phase.noConfusion
    · rw [settleTick_backoff, resubscribeNext_backoff]
      exact .refl _

theorem clocked_tick : Clocked ⟨.tick now, engine⟩ s (s.tick engine now) := by
  rw [tick_eq]
  split
  · unfold paceNow
    split
    next recovering =>
      split
      · exact clocked_drainOne _ recovering
      · exact clocked_resubscribeOne _ (open_of_recovering recovering).1
      · exact .of_same rfl (.refl _) id rfl rfl
    next => exact .of_same rfl (.refl _) (fun up => absurd up Bool.false_ne_true) rfl rfl
  · exact .of_same rfl (.refl _) id rfl rfl

theorem clocked_attempt (expected : Nat) (slept : Duration)
    (attempting : s.supervisor = .attempting expected slept) :
    Clocked ⟨.supervise now, engine⟩ s (s.attempt engine) := by
  have awake : fallsQuiet ⟨.supervise now, engine⟩ s = false := by
    rw [fallsQuiet, attempting]
    exact Bool.and_false _
  unfold attempt
  simp only [attempting]
  split
  · simp only [sendConnect, writePhase, Phase.write_connecting]
    cases answer : engine (.connect s.settings.keepAlive) with
    | ok number =>
      rw [send_ok _ _ number _ answer]
      exact .attempted rfl Phase.noConfusion (.refl _)
    | error cause =>
      rw [send_error _ _ cause _ answer]
      exact .attempted rfl Phase.noConfusion (.refl _)
  · exact .of_same rfl (.refl _) id rfl awake

theorem clocked_supervise : Clocked ⟨.supervise now, engine⟩ s (s.supervise engine now) := by
  unfold supervise
  by_cases interrupted : s.interrupted = true
  · rw [if_pos interrupted]
    have awake : fallsQuiet ⟨.supervise now, engine⟩ s = false := by
      rw [fallsQuiet, interrupted]
      rfl
    exact .of_same rfl (.refl _) id rfl awake
  · rw [if_neg interrupted]
    have awake (other : (s.supervisor matches .cancelling _) = false) :
        fallsQuiet ⟨.supervise now, engine⟩ s = false := by
      rw [fallsQuiet, other]
      exact Bool.and_false _
    cases stage : s.supervisor with
    | idle =>
      have awake := awake (by rw [stage])
      simp only [collect, stage]
      split <;> exact .of_same rfl (.refl _) id rfl awake
    | engaged expected =>
      have awake := awake (by rw [stage])
      simp only [engage, stage]
      exact .of_same rfl (.refl _) id rfl awake
    | cancelling expected =>
      have quiets : fallsQuiet ⟨.supervise now, engine⟩ s = true := by
        rw [fallsQuiet, stage, Bool.eq_false_of_not_eq_true interrupted]
        rfl
      simp only [fallQuiet, stage]
      exact .quieted quiets rfl rfl rfl rfl
    | quiet expected slept wakeAt =>
      have awake := awake (by rw [stage])
      simp only
      split
      · simp only [wake, stage]
        exact .of_same rfl ⟨rfl, rfl, rfl⟩ id rfl awake
      · exact .of_same rfl (.refl _) id rfl awake
    | attempting expected slept => exact clocked_attempt expected slept stage
    | stopped => exact .of_same rfl (.refl _) id rfl (awake (by rw [stage]))

theorem clocked (m : Move) (s : Session) (recovered : s.phase = .stable → ¬s.isRecovering) :
    Clocked m s (s.after m) := by
  obtain ⟨step, engine⟩ := m
  cases step with
  | connect caller => exact clocked_connect caller
  | disconnect caller => exact clocked_disconnect caller
  | request request caller => exact clocked_request request caller
  | adjust adjustment => exact clocked_adjust adjustment
  | dispatch now => exact clocked_dispatch recovered
  | tick now => exact clocked_tick
  | supervise now => exact clocked_supervise
  | configureQueue capacity policy => exact .of_same rfl (.refl _) id rfl rfl
  | report report => exact .of_same rfl (.refl _) id rfl rfl
  | expire timer => exact .ended timer rfl rfl rfl rfl

/-! ### The timer and the phase -/

/-- How the timer stands to the phase, given what has happened since the session last became
stable. -/
structure Tracks (spell : Spell) (s : Session) : Prop where
  recovered : s.phase = .stable → ¬s.isRecovering
  overtaken : spell.overtaken = true → s.phase ≠ .stable
  armed : s.backoff.armed = true → s.phase = .stable ∨ spell.overtaken = true
  /-- As long as nobody has silenced it, the timer of a stable session runs or has expired. -/
  heard : s.phase = .stable → spell.silenced = false →
    s.backoff.isRunning = true ∨ spell.expired = true
  silenced : s.phase = .stable → spell.silenced = true →
    s.backoff.armed = false ∧ spell.expired = false

theorem Tracks.start (settings : Settings) : Tracks {} (start settings) where
  recovered := fun _ => Bool.false_ne_true
  overtaken := fun overtaken => absurd overtaken Bool.false_ne_true
  armed := fun armed => absurd armed Bool.false_ne_true
  heard := fun stable => absurd stable Phase.noConfusion
  silenced := fun stable => absurd stable Phase.noConfusion

theorem isRunning_startTimer (b : Backoff) : b.startTimer.isRunning = true := by
  simp [Backoff.isRunning, Backoff.startTimer, Backoff.stopTimer]

theorem isRunning_of_unarmed {b : Backoff} (unarmed : b.armed = false) : b.isRunning = false := by
  rw [Backoff.isRunning, unarmed, Bool.false_and]

theorem isRunning_expire {b : Backoff} (running : b.isRunning = true) {timer : StabilityTimer}
    (stale : timer ∈ b.timers → timer.generation ≠ b.generation) :
    (b.expire timer).isRunning = true := by
  obtain ⟨armed, running⟩ := Bool.and_eq_true_iff.mp running
  obtain ⟨current, member, generation⟩ := List.any_eq_true.mp running
  have other : current ≠ timer := by
    rintro rfl
    exact stale member (beq_iff_eq.mp generation)
  rw [Backoff.isRunning, Backoff.expire_eq, armed, Bool.true_and]
  exact List.any_eq_true.mpr ⟨current, (List.mem_erase_of_ne other).mpr member, generation⟩

theorem next_of_unsettled (unsettled : settles m s = false) :
    spell.next m s =
      { overtaken := spell.overtaken || overtakes m s
        expired := spell.expired || expires m s
        silenced := spell.silenced || fallsQuiet m s && !spell.expired } := by
  rw [Spell.next, unsettled]
  rfl

theorem settles_of_unstable (unstable : (s.after m).phase ≠ .stable) : settles m s = false := by
  rw [settles, Phase.isStable, Phase.isStable, beq_eq_false_iff_ne.mpr unstable, Bool.and_false]

theorem unsettled_of_stays (stable : (s.after m).phase = .stable ↔ s.phase = .stable) :
    settles m s = false ∧ overtakes m s = false := by
  by_cases before : s.phase = .stable
  · rw [settles, overtakes, stable.mpr before, before]
    exact ⟨rfl, Bool.and_false _⟩
  · rw [settles, overtakes, Phase.isStable, Phase.isStable, beq_eq_false_iff_ne.mpr before,
      beq_eq_false_iff_ne.mpr fun after => before (stable.mp after)]
    exact ⟨rfl, by rw [Bool.and_false]; rfl⟩

theorem Tracks.still (tracks : Tracks spell s)
    (stable : (s.after m).phase = .stable ↔ s.phase = .stable)
    (timer : SameTimer s.backoff (s.after m).backoff)
    (recovery : (s.after m).phase = .stable → (s.after m).isRecovering → s.isRecovering)
    (unexpired : expires m s = false) (awake : fallsQuiet m s = false) :
    Tracks (spell.next m s) (s.after m) := by
  obtain ⟨unsettled, spared⟩ := unsettled_of_stays stable
  rw [next_of_unsettled unsettled, spared, unexpired, awake]
  simp only [Bool.or_false, Bool.false_and]
  constructor
  case recovered => exact fun here up => tracks.recovered (stable.mp here) (recovery here up)
  case overtaken => exact fun overtaken here => tracks.overtaken overtaken (stable.mp here)
  case armed =>
    rw [timer.1, stable]
    exact tracks.armed
  case heard =>
    rw [timer.isRunning, stable]
    exact tracks.heard
  case silenced =>
    rw [timer.1, stable]
    exact tracks.silenced

theorem Tracks.settled (unstable : s.phase ≠ .stable) (stable : (s.after m).phase = .stable)
    (started : (s.after m).backoff = s.backoff.startTimer)
    (recovered : ¬(s.after m).isRecovering) : Tracks (spell.next m s) (s.after m) := by
  have settling : settles m s = true := by
    rw [settles, Phase.isStable, Phase.isStable, stable, beq_eq_false_iff_ne.mpr unstable]
    rfl
  rw [Spell.next, if_pos settling]
  constructor
  case recovered => exact fun _ => recovered
  case overtaken => exact fun overtaken => absurd overtaken Bool.false_ne_true
  case armed => exact fun _ => .inl stable
  case heard =>
    intro _ _
    rw [started]
    exact .inl (isRunning_startTimer _)
  case silenced => exact fun _ silenced => absurd silenced Bool.false_ne_true

theorem Tracks.left (unstable : (s.after m).phase ≠ .stable)
    (stopped : (s.after m).backoff.armed = false) : Tracks (spell.next m s) (s.after m) := by
  constructor
  case armed => exact fun armed => absurd (stopped.symm.trans armed) Bool.false_ne_true
  case overtaken => exact fun _ => unstable
  all_goals exact fun stable => absurd stable unstable

/-- Whoever connects over a stable session leaves its timer behind, and the spell tells so. -/
theorem Tracks.attempted (tracks : Tracks spell s) (supervision : isSupervision m = true)
    (unstable : (s.after m).phase ≠ .stable) (timer : SameTimer s.backoff (s.after m).backoff) :
    Tracks (spell.next m s) (s.after m) := by
  rw [next_of_unsettled (settles_of_unstable unstable)]
  constructor
  case armed =>
    rw [timer.1]
    intro armed
    refine .inr ?_
    rcases tracks.armed armed with stable | overtaken
    · simp [overtakes, supervision, stable, Phase.isStable, unstable]
    · simp [overtaken]
  case overtaken => exact fun _ => unstable
  all_goals exact fun stable => absurd stable unstable

theorem Tracks.quieted (tracks : Tracks spell s) (quiets : fallsQuiet m s = true)
    (phase : (s.after m).phase = s.phase) (stopped : (s.after m).backoff.armed = false)
    (recovery : (s.after m).isRecovering = s.isRecovering) (unexpired : expires m s = false) :
    Tracks (spell.next m s) (s.after m) := by
  obtain ⟨unsettled, spared⟩ := unsettled_of_stays (by rw [phase])
  rw [next_of_unsettled unsettled, spared, unexpired, quiets]
  simp only [Bool.or_false, Bool.true_and]
  constructor
  case recovered =>
    rw [phase, recovery]
    exact tracks.recovered
  case overtaken =>
    rw [phase]
    exact tracks.overtaken
  case armed => exact fun armed => absurd (stopped.symm.trans armed) Bool.false_ne_true
  case heard =>
    intro _ heard
    simp only [Bool.or_eq_false_iff, Bool.not_eq_false'] at heard
    exact .inr heard.2
  case silenced =>
    intro stable silenced
    refine ⟨stopped, ?_⟩
    rcases Bool.or_eq_true_iff.mp silenced with before | now
    · exact (tracks.silenced (phase.symm.trans stable) before).2
    · simpa using now

theorem Tracks.ended (tracks : Tracks spell s) {timer : StabilityTimer}
    (step : m.step = .expire timer) (phase : (s.after m).phase = s.phase)
    (expired : (s.after m).backoff = s.backoff.expire timer)
    (recovery : (s.after m).isRecovering = s.isRecovering) :
    Tracks (spell.next m s) (s.after m) := by
  obtain ⟨unsettled, spared⟩ := unsettled_of_stays (by rw [phase])
  have awake : fallsQuiet m s = false := by rw [fallsQuiet, isSupervision, step]; rfl
  have ends : expires m s = (s.backoff.armed && decide (timer ∈ s.backoff.timers) &&
      timer.generation == s.backoff.generation) := by rw [expires, step]
  rw [next_of_unsettled unsettled, spared, awake]
  simp only [Bool.or_false, Bool.false_and]
  constructor
  case recovered =>
    rw [phase, recovery]
    exact tracks.recovered
  case overtaken =>
    rw [phase]
    exact tracks.overtaken
  case armed =>
    rw [phase, expired, Backoff.expire_eq]
    exact tracks.armed
  case heard =>
    intro stable unsilenced
    rcases tracks.heard (phase.symm.trans stable) unsilenced with running | before
    · by_cases current : expires m s = true
      · exact .inr (by rw [current, Bool.or_true])
      · rw [expired]
        refine .inl (isRunning_expire running fun member same => current ?_)
        rw [ends, (Bool.and_eq_true_iff.mp running).1, decide_eq_true member, same]
        exact beq_self_eq_true _
    · exact .inr (by rw [before, Bool.true_or])
  case silenced =>
    intro stable silenced
    obtain ⟨unarmed, before⟩ := tracks.silenced (phase.symm.trans stable) silenced
    rw [expired, Backoff.expire_eq]
    refine ⟨unarmed, ?_⟩
    rw [before, ends, unarmed]
    rfl

theorem Tracks.after (tracks : Tracks spell s) (m : Move) :
    Tracks (spell.next m s) (s.after m) := by
  cases clocked m s tracks.recovered with
  | still stable timer recovery unexpired awake =>
    exact tracks.still stable timer recovery unexpired awake
  | settled unstable stable started recovered =>
    exact .settled unstable stable started recovered
  | left unstable stopped => exact .left unstable stopped
  | attempted supervision unstable timer => exact tracks.attempted supervision unstable timer
  | quieted quiets phase stopped recovery unexpired =>
    exact tracks.quieted quiets phase stopped recovery unexpired
  | ended timer step phase expired recovery => exact tracks.ended step phase expired recovery

/-! ### Runs -/

theorem Tracks.run (tracks : Tracks spell s) (moves : List Move) :
    Tracks (Spell.after moves s spell) (run moves s) := by
  induction moves generalizing s spell with
  | nil => exact tracks
  | cons m rest ih => exact ih (tracks.after m)

/-- When the timer follows the session. -/
structure FollowsStability (spell : Spell) (s : Session) : Prop where
  /-- A timer that runs tells of a stable session, unless the supervisor has connected over it. -/
  running : s.backoff.isRunning = true → (s.phase = .stable ↔ spell.overtaken = false)
  /-- A stable session has a timer that runs or has expired, unless the supervisor has gone to sleep
  before that. -/
  stable : s.phase = .stable →
    ((s.backoff.isRunning = true ∨ spell.expired = true) ↔ spell.silenced = false)
  /-- The end of a timer that runs brings the quiet time back to its base. -/
  reset : ∀ m, expires m s = true → (s.after m).backoff.current = s.backoff.timing.base

theorem reset_of_expires (ends : expires m s = true) :
    (s.after m).backoff.current = s.backoff.timing.base := by
  obtain ⟨step, engine⟩ := m
  unfold expires at ends
  cases step with
  | expire timer =>
    obtain ⟨armed, same⟩ := Bool.and_eq_true_iff.mp ends
    have member := of_decide_eq_true (Bool.and_eq_true_iff.mp armed).2
    change (s.backoff.expire timer).current = _
    rw [Backoff.expire, if_pos ⟨member, beq_iff_eq.mp same⟩]
  | _ => exact absurd ends Bool.false_ne_true

/-- The timer runs or has expired in just those stable sessions in which the supervisor has not gone
to sleep before, and it runs in no other session than one that the supervisor has connected over. -/
theorem timer_follows_stability (settings : Settings) (moves : List Move) :
    FollowsStability (Spell.after moves (start settings) {}) (run moves (start settings)) := by
  have tracks := (Tracks.start settings).run moves
  generalize run moves (start settings) = s at tracks ⊢
  generalize Spell.after moves (start settings) {} = spell at tracks ⊢
  refine ⟨fun running => ⟨fun stable => ?_, fun spared => ?_⟩, fun stable => ⟨fun heard => ?_, ?_⟩,
    fun m => reset_of_expires⟩
  · by_contra overtaken
    exact tracks.overtaken (Bool.eq_true_of_not_eq_false overtaken) stable
  · have armed := (Bool.and_eq_true_iff.mp running).1
    refine (tracks.armed armed).resolve_right fun overtaken => ?_
    exact absurd (spared.symm.trans overtaken) Bool.false_ne_true
  · by_contra silenced
    obtain ⟨unarmed, unexpired⟩ := tracks.silenced stable (Bool.eq_true_of_not_eq_false silenced)
    rcases heard with running | expired
    · exact absurd ((isRunning_of_unarmed unarmed).symm.trans running) Bool.false_ne_true
    · exact absurd (unexpired.symm.trans expired) Bool.false_ne_true
  · exact tracks.heard stable

/-- The application connects before the supervisor has taken up the loss. When it does, it sleeps
over a reconnect that nobody wants any more. -/
def supersededRun : List Move :=
  [⟨.connect (.notified none), numbering 1⟩, ⟨.report (.connack 0), numbering 1⟩,
   ⟨.dispatch 0, numbering 1⟩, ⟨.tick 0, numbering 1⟩, ⟨.report (.disconnect 0), numbering 1⟩,
   ⟨.dispatch 0, numbering 1⟩, ⟨.connect (.notified none), numbering 1⟩,
   ⟨.report (.connack 0), numbering 1⟩, ⟨.dispatch 0, numbering 1⟩, ⟨.tick 0, numbering 1⟩,
   ⟨.supervise 0, numbering 1⟩, ⟨.supervise 0, numbering 1⟩, ⟨.supervise 0, numbering 1⟩]

/-- The supervisor connects over a session that became stable while it slept. -/
def overtakingRun : List Move :=
  [⟨.connect (.notified none), numbering 1⟩, ⟨.report (.connack 0), numbering 1⟩,
   ⟨.dispatch 0, numbering 1⟩, ⟨.tick 0, numbering 1⟩, ⟨.disconnect (.notified none), numbering 1⟩,
   ⟨.connect (.notified none), numbering 1⟩, ⟨.report (.disconnect 0), numbering 1⟩,
   ⟨.dispatch 0, numbering 1⟩, ⟨.supervise 0, numbering 1⟩, ⟨.supervise 0, numbering 1⟩,
   ⟨.supervise 0, numbering 1⟩, ⟨.report (.connack 0), numbering 1⟩, ⟨.dispatch 0, numbering 1⟩,
   ⟨.tick 0, numbering 1⟩, ⟨.supervise 1000000000, numbering 1⟩,
   ⟨.supervise 1000000000, numbering 1⟩]

/-- Neither is a stable session sure of its timer, nor a running timer of its session. -/
theorem supersededRun_untimed :
    let s := run supersededRun (start .standard)
    let t := run overtakingRun (start .standard)
    (s.phase = .stable ∧ s.backoff.isRunning = false ∧
      (Spell.after supersededRun (start .standard) {}).expired = false) ∧
    t.phase = .connecting ∧ t.backoff.isRunning = true := by
  decide +kernel

end Session

end DurableMqtt
