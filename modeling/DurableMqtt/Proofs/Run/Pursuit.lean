import DurableMqtt.Proofs.Run.Schedule

/-!
The supervisor, left to itself, connects whenever a reconnect of the current epoch is scheduled or
under way: each of its stages brings it closer to an attempt.
-/

namespace DurableMqtt.Session

variable {s : Session}

structure Pursued (s : Session) : Prop where
  awake : s.Awake
  opened : s.phase ≠ .userDisconnect
  signals : ∀ epoch ∈ s.signals, epoch ≤ s.epoch
  scheduled : Scheduled s

/-- How many stages the supervisor is away from an attempt. One whose reconnect is out of date
gives it up first. -/
def stagesLeft (s : Session) : Nat :=
  match s.supervisor with
  | .attempting expected _ => if expected = s.epoch then 0 else 5
  | .quiet expected .. => if expected = s.epoch then 1 else 6
  | .cancelling expected => if expected = s.epoch then 2 else 7
  | .engaged expected => if expected = s.epoch then 3 else 8
  | .idle | .stopped => 4

theorem Pursued.staged (pursued : Pursued s) (supervisor : Supervisor) (backoff : Backoff)
    (running : supervisor ≠ .stopped)
    (scheduled : s.epoch ∈ s.signals ∨ supervisor.expected? = some s.epoch) :
    Pursued { s with supervisor, backoff } :=
  ⟨⟨pursued.awake.1, running⟩, pursued.opened, pursued.signals, scheduled⟩

theorem Pursued.collect (pursued : Pursued s) (idle : s.supervisor = .idle) :
    s.collect = { s with supervisor := .engaged s.epoch, signals := [] } := by
  have current : s.epoch ∈ s.signals := by
    refine pursued.scheduled.resolve_right fun engaged => ?_
    rw [idle] at engaged
    exact absurd engaged.symm (Option.some_ne_none _)
  unfold Session.collect
  cases scheduled : s.signals with
  | nil =>
    rw [scheduled] at current
    exact absurd current List.not_mem_nil
  | cons first rest =>
    obtain ⟨member, newest⟩ := newest_scheduled first rest
    rw [← scheduled] at member newest
    have same : rest.foldl max first = s.epoch :=
      Nat.le_antisymm (pursued.signals _ member) (newest _ current)
    simp only [idle, same]

theorem Pursued.closer (pursued : Pursued s) :
    ∃ now, asks ⟨.supervise now, numbering 0⟩ s = true ∨
      Pursued (s.supervise (numbering 0) now) ∧
        (s.supervise (numbering 0) now).phase = s.phase ∧
        stagesLeft (s.supervise (numbering 0) now) < stagesLeft s := by
  have opened := pursued.opened
  have running : s.interrupted = false := pursued.awake.1
  have scheduled := pursued.scheduled
  unfold Scheduled at scheduled
  cases stage : s.supervisor with
  | stopped => exact absurd stage pursued.awake.2
  | idle =>
    have next : s.supervise (numbering 0) 0 =
        { s with supervisor := .engaged s.epoch, signals := [] } := by
      rw [← pursued.collect stage]
      simp only [supervise, running, Bool.false_eq_true, ↓reduceIte, stage]
    refine ⟨0, .inr ?_⟩
    rw [next]
    refine ⟨⟨⟨running, Supervisor.noConfusion⟩, opened, ?_, .inr rfl⟩, rfl, ?_⟩
    · exact fun _ none => absurd none List.not_mem_nil
    · simp [stagesLeft, stage]
  | engaged expected =>
    have next : s.supervise (numbering 0) 0 = { s with supervisor := .cancelling expected } := by
      simp only [supervise, running, Bool.false_eq_true, ↓reduceIte, stage, engage, opened]
    rw [stage] at scheduled
    refine ⟨0, .inr ?_⟩
    rw [next]
    refine ⟨pursued.staged _ s.backoff Supervisor.noConfusion scheduled, rfl, ?_⟩
    simp only [stagesLeft, stage]
    split <;> omega
  | cancelling expected =>
    have next : s.supervise (numbering 0) 0 =
        { s with
          supervisor := .quiet expected s.backoff.current (0 + s.backoff.current.nanoseconds)
          backoff := s.backoff.stopTimer } := by
      simp only [supervise, running, Bool.false_eq_true, ↓reduceIte, stage, fallQuiet, stopTimer]
      rfl
    rw [stage] at scheduled
    refine ⟨0, .inr ?_⟩
    rw [next]
    refine ⟨pursued.staged _ _ Supervisor.noConfusion scheduled, rfl, ?_⟩
    simp only [stagesLeft, stage]
    split <;> omega
  | quiet expected slept wakeAt =>
    have next : s.supervise (numbering 0) wakeAt =
        { s with supervisor := .attempting expected slept, backoff := s.backoff.escalate } := by
      simp only [supervise, running, Bool.false_eq_true, ↓reduceIte, stage, le_refl, wake]
    rw [stage] at scheduled
    refine ⟨wakeAt, .inr ?_⟩
    rw [next]
    refine ⟨pursued.staged _ _ Supervisor.noConfusion scheduled, rfl, ?_⟩
    simp only [stagesLeft, stage]
    split <;> omega
  | attempting expected slept =>
    by_cases current : expected = s.epoch
    · refine ⟨0, .inl ?_⟩
      have appended : (s.after ⟨.supervise 0, numbering 0⟩).effects =
          s.effects ++ [.called (.connect s.settings.keepAlive) (.ok 0) none] := by
        simp [Session.after, supervise, running, stage, attempt, current, opened, sendConnect, send,
          numbering, PendingTable.register, emit, writePhase, Except.map]
      rw [asks_of_append appended]
      rfl
    · have stale : s.epoch ≠ expected := fun same => current same.symm
      have next : s.supervise (numbering 0) 0 = { s with supervisor := .idle } := by
        simp only [supervise, running, Bool.false_eq_true, ↓reduceIte, stage, attempt, stale,
          false_and]
      have waiting : s.epoch ∈ s.signals := by
        refine scheduled.resolve_right fun engaged => ?_
        rw [stage] at engaged
        exact current (Option.some.inj engaged)
      refine ⟨0, .inr ?_⟩
      rw [next]
      refine ⟨pursued.staged _ s.backoff Supervisor.noConfusion (.inl waiting), rfl, ?_⟩
      simp [stagesLeft, stage, current]

/-- Left to itself, the supervisor connects, and changes nothing about the phase before. -/
theorem Pursued.connects (pursued : Pursued s) :
    ∃ stages : List Move, (∀ m ∈ stages, isSupervision m) ∧ (run stages s).phase = s.phase ∧
      ∃ now engine, asks ⟨.supervise now, engine⟩ (run stages s) := by
  generalize left : stagesLeft s = n
  induction n using Nat.strong_induction_on generalizing s with
  | _ n ih =>
    obtain ⟨now, asked | ⟨next, same, fewer⟩⟩ := pursued.closer
    · exact ⟨[], by simp, rfl, now, _, asked⟩
    · obtain ⟨stages, supervised, phase, at', engine, asked⟩ := ih _ (left ▸ fewer) next rfl
      refine ⟨⟨.supervise now, numbering 0⟩ :: stages, ?_, phase.trans same, at', engine, asked⟩
      intro m member
      rcases List.mem_cons.mp member with first | later
      · rw [first]
        rfl
      · exact supervised m later

end DurableMqtt.Session
