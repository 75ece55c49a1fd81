import DurableMqtt.Proofs.Run.Pursuit

/-!
When the supervisor gives up a session that the broker has accepted.

A reconnect is scheduled under the epoch at which its connection ended, and an accepted session
keeps that epoch. So a reconnect that was scheduled while the session was connecting still looks
current once the session is up, and the supervisor connects over it.
-/

namespace DurableMqtt.Session

variable {s : Session} {m : Move}

/-! ### Only the supervisor moves -/

section

variable {now : Instant} {engine : Engine}

theorem supervise_up (failed : Bool) (up : (s.after ⟨.supervise now, engine⟩).phase.isConnected) :
    s.phase.isConnected ∧ stillFailed ⟨.supervise now, engine⟩ s failed = failed := by
  have after : s.after ⟨.supervise now, engine⟩ = s.supervise engine now := rfl
  have onTime : misses ⟨.supervise now, engine⟩ s = false := Bool.and_false _
  have supervised : Supervised engine s (s.supervise engine now) := supervise_supervised s
  have same (effects : (s.supervise engine now).effects = s.effects)
      (epoch : (s.supervise engine now).epoch = s.epoch) :
      stillFailed ⟨.supervise now, engine⟩ s failed = failed := by
    have taken : asksInVain ⟨.supervise now, engine⟩ s = false :=
      asksInVain_of_unasked (asks_of_same after effects)
    rw [stillFailed, taken, after, epoch, onTime, beq_self_eq_true]
    simp only [Bool.and_false, Bool.or_false, Bool.true_and, Bool.false_or]
  rw [after] at up
  generalize s.supervise engine now = t at after supervised up same
  cases supervised with
  | connected slept number attempting opened taken => exact absurd up Bool.false_ne_true
  | refused slept cause attempting opened answer => exact absurd up Bool.false_ne_true
  | _ => exact ⟨up, same rfl rfl⟩

theorem stages_up (failed : Bool) (stages : List Move) (supervised : ∀ m ∈ stages, isSupervision m)
    (up : (run stages s).phase.isConnected) :
    s.phase.isConnected ∧ failedAfter stages s failed = failed := by
  induction stages generalizing s failed with
  | nil => exact ⟨up, rfl⟩
  | cons m rest ih =>
    obtain ⟨later, kept⟩ := ih (stillFailed m s failed)
      (fun other member => supervised other (List.mem_cons_of_mem m member)) up
    have supervision := supervised m List.mem_cons_self
    obtain ⟨step, engine⟩ := m
    cases step with
    | supervise now =>
      obtain ⟨here, same⟩ := supervise_up failed later
      exact ⟨here, kept.trans same⟩
    | _ => exact absurd supervision Bool.false_ne_true

end

/-! ### A session that will be given up -/

structure Doomed (s : Session) : Prop where
  awake : s.Awake
  up : s.phase.isConnected
  signals : ∀ epoch ∈ s.signals, epoch ≤ s.epoch
  scheduled : Scheduled s

/-- Left to itself, the supervisor connects over a session that is up. -/
def IsAbandoned (s : Session) : Prop :=
  ∃ stages : List Move, (∀ m ∈ stages, isSupervision m) ∧
    (run stages s).phase.isConnected ∧ ∃ now engine, asks ⟨.supervise now, engine⟩ (run stages s)

theorem Doomed.abandoned (doomed : Doomed s) : IsAbandoned s := by
  have opened : s.phase ≠ .userDisconnect := IsLive.opened (.inr doomed.up)
  have pursued : Pursued s := ⟨doomed.awake, opened, doomed.signals, doomed.scheduled⟩
  obtain ⟨stages, supervised, phase, asked⟩ := pursued.connects
  refine ⟨stages, supervised, ?_, asked⟩
  rw [phase]
  exact doomed.up

/-- The supervisor gives up a session that is up in just those runs in which an attempt of its
epoch has failed before. -/
theorem abandoned_iff_failed (settings : Settings) (moves : List Move) :
    IsAbandoned (run moves (start settings)) ↔
      (run moves (start settings)).phase.isConnected ∧
        failedAfter moves (start settings) false = true := by
  have history := History.start settings
  have schedule := Schedule.start settings
  constructor
  · rintro ⟨stages, supervised, up, now, engine, asked⟩
    obtain ⟨here, same⟩ := stages_up (failedAfter moves (start settings) false) stages supervised up
    refine ⟨here, ?_⟩
    have later := schedule.run history (moves ++ stages)
    rw [run_append, failedAfter_append, same] at later
    rcases later.cause (.inr (current_of_asks asked).1) with lost | live
    · rw [lost] at up
      exact absurd up Bool.false_ne_true
    · exact live.1
  · rintro ⟨up, failed⟩
    have here := schedule.run history moves
    have scheduled := (here.held failed).1
    exact Doomed.abandoned ⟨(history.run moves).awake, up, here.signals, scheduled⟩

/-- The end of a connection that the application has closed is dispatched when the application
has already asked for the next one. The broker accepts that one, and the supervisor connects
over it. -/
def overtakenRun : List Move :=
  [⟨.connect (.notified none), numbering 1⟩, ⟨.report (.connack 0), numbering 1⟩,
   ⟨.dispatch 0, numbering 1⟩, ⟨.tick 0, numbering 1⟩, ⟨.disconnect (.notified none), numbering 1⟩,
   ⟨.connect (.notified none), numbering 1⟩, ⟨.report (.disconnect 0), numbering 1⟩,
   ⟨.dispatch 0, numbering 1⟩, ⟨.report (.connack 0), numbering 1⟩, ⟨.dispatch 0, numbering 1⟩,
   ⟨.tick 0, numbering 1⟩, ⟨.supervise 0, numbering 1⟩, ⟨.supervise 0, numbering 1⟩,
   ⟨.supervise 0, numbering 1⟩, ⟨.supervise 1000000000, numbering 1⟩]

theorem overtakenRun_abandoned :
    (run overtakenRun (start .standard)).phase = .stable ∧
      asks ⟨.supervise 1000000000, numbering 1⟩ (run overtakenRun (start .standard)) = true ∧
      (run (overtakenRun ++ [⟨.supervise 1000000000, numbering 1⟩]) (start .standard)).phase =
        .connecting := by
  decide +kernel

end DurableMqtt.Session
