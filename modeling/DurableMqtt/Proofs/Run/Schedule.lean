import DurableMqtt.Proofs.Run.Acceptance

/-!
Which reconnects are scheduled, and why.

A reconnect is scheduled under the epoch at which its connection ended. Every connect, disconnect
and refusal starts a new epoch, so a reconnect of the current one stands for a connection that was
lost, or that failed and was not asked for again. A burst of reconnects is taken up as the newest
of them, which is the current one if there is any.
-/

namespace DurableMqtt.Session

variable {s : Session} {m : Move} {accepted failed : Bool}

/-- Whether an attempt of the current epoch has failed, after a step: its connection ended before
it was accepted, or the engine refused the CONNECT of the supervisor. -/
def stillFailed (m : Move) (s : Session) (failed : Bool) : Bool :=
  isSupervision m && asksInVain m s ||
    (s.after m).epoch == s.epoch && (failed || misses m s)

def failedAfter : List Move → Session → Bool → Bool
  | [], _, failed => failed
  | m :: rest, s, failed => failedAfter rest (s.after m) (stillFailed m s failed)

def Scheduled (s : Session) : Prop := s.epoch ∈ s.signals ∨ s.supervisor.expected? = some s.epoch

def IsLive (s : Session) : Prop := s.phase = .connecting ∨ s.phase.isConnected

structure Schedule (s : Session) (failed : Bool) : Prop where
  signals : ∀ epoch ∈ s.signals, epoch ≤ s.epoch
  expected : ∀ epoch, s.supervisor.expected? = some epoch → epoch ≤ s.epoch
  cause : Scheduled s → s.phase = .abnormalDisconnect ∨ failed = true ∧ IsLive s
  held : failed = true → Scheduled s ∧ (s.phase = .abnormalDisconnect ∨ IsLive s)

theorem Schedule.start (settings : Settings) : Schedule (start settings) false where
  signals := fun _ member => absurd member List.not_mem_nil
  expected := fun epoch engaged => absurd engaged.symm (Option.some_ne_none epoch)
  cause := fun scheduled =>
    scheduled.elim (fun member => absurd member List.not_mem_nil)
      fun engaged => absurd engaged.symm (Option.some_ne_none _)
  held := fun failed => absurd failed Bool.false_ne_true

/-! ### How a step changes the history -/

theorem stillFailed_of_unmoved (unasked : asks m s = false) (epoch : (s.after m).epoch = s.epoch)
    (signals : (s.after m).signals ≠ s.signals ++ [s.epoch]) :
    stillFailed m s failed = failed := by
  have onTime : misses m s = false :=
    Bool.eq_false_of_not_eq_true fun missing => signals (after_of_misses missing).2
  rw [stillFailed, asksInVain_of_unasked unasked, Bool.and_false, epoch, onTime, Bool.or_false]
  simp only [beq_self_eq_true, Bool.true_and, Bool.false_or]

theorem stillFailed_of_epoch (epoch : (s.after m).epoch = s.epoch + 1) :
    stillFailed m s failed = (isSupervision m && asksInVain m s) := by
  have moved : ((s.after m).epoch == s.epoch) = false := by
    rw [epoch]
    exact beq_false_of_ne (Nat.succ_ne_self _)
  rw [stillFailed, moved, Bool.false_and, Bool.or_false]

theorem stillFailed_of_misses (missing : misses m s = true) (epoch : (s.after m).epoch = s.epoch) :
    stillFailed m s failed = true := by
  rw [stillFailed, missing, epoch, beq_self_eq_true]
  simp only [Bool.or_true, Bool.and_true]

theorem append_ne (epochs : List Nat) (epoch : Nat) : epochs ≠ epochs ++ [epoch] := by
  intro same
  have lengths := congrArg List.length same
  simp at lengths

/-! ### How a step changes the schedule -/

section

variable {t : Session}

theorem Schedule.of_scheduled (schedule : Schedule s failed)
    (signals : ∀ epoch ∈ t.signals, epoch ≤ t.epoch)
    (expected : ∀ epoch, t.supervisor.expected? = some epoch → epoch ≤ t.epoch)
    (scheduled : Scheduled t ↔ Scheduled s) (live : IsLive s → IsLive t)
    (abnormal : s.phase = .abnormalDisconnect → t.phase = .abnormalDisconnect) :
    Schedule t failed where
  signals := signals
  expected := expected
  cause := fun here => (schedule.cause (scheduled.mp here)).imp abnormal (And.imp_right live)
  held := fun failed => (schedule.held failed).imp scheduled.mpr (Or.imp abnormal live)

theorem scheduled_of_unmoved (unmoved : Unmoved s t) : Scheduled t ↔ Scheduled s := by
  unfold Scheduled
  rw [unmoved.epoch, unmoved.signals, unmoved.expected]

theorem Schedule.of_unmoved (schedule : Schedule s failed) (unmoved : Unmoved s t)
    (live : IsLive s → IsLive t)
    (abnormal : s.phase = .abnormalDisconnect → t.phase = .abnormalDisconnect) :
    Schedule t failed := by
  refine schedule.of_scheduled ?_ ?_ (scheduled_of_unmoved unmoved) live abnormal
  · rw [unmoved.signals, unmoved.epoch]
    exact schedule.signals
  · rw [unmoved.expected, unmoved.epoch]
    exact schedule.expected

theorem IsLive.of_phase (phase : t.phase = s.phase) (live : IsLive s) : IsLive t := by
  rwa [IsLive, phase]

theorem IsLive.opened (live : IsLive s) : s.phase ≠ .userDisconnect := by
  intro closed
  simp [IsLive, closed, Phase.isConnected] at live

/-- No reconnect of older epochs is current in a new one. -/
theorem Schedule.of_epoch (schedule : Schedule s failed) (epoch : t.epoch = s.epoch + 1)
    (signals : t.signals = s.signals)
    (expected : t.supervisor.expected? = s.supervisor.expected?) : Schedule t false := by
  have older : ∀ epoch ∈ t.signals, epoch ≤ s.epoch := by
    rw [signals]
    exact schedule.signals
  have stale : ∀ epoch, t.supervisor.expected? = some epoch → epoch ≤ s.epoch := by
    rw [expected]
    exact schedule.expected
  constructor
  · intro old member
    have bound := older old member
    omega
  · intro old engaged
    have bound := stale old engaged
    omega
  · rintro (member | engaged)
    · have bound := older _ member
      omega
    · have bound := stale _ engaged
      omega
  · exact fun failed => absurd failed Bool.false_ne_true

theorem Schedule.of_end (schedule : Schedule s failed) (epoch : t.epoch = s.epoch)
    (signals : t.signals = s.signals ++ [s.epoch])
    (expected : t.supervisor.expected? = s.supervisor.expected?) :
    Scheduled t ∧ (∀ epoch ∈ t.signals, epoch ≤ t.epoch) ∧
      ∀ epoch, t.supervisor.expected? = some epoch → epoch ≤ t.epoch := by
  refine ⟨.inl ?_, fun old member => ?_, ?_⟩
  · rw [signals, epoch]
    exact List.mem_append_right _ (List.mem_singleton_self _)
  · rw [signals] at member
    rw [epoch]
    rcases List.mem_append.mp member with before | now
    · exact schedule.signals old before
    · exact (List.mem_singleton.mp now).le
  · rw [expected, epoch]
    exact schedule.expected

theorem newest_scheduled (first : Nat) (rest : List Nat) :
    rest.foldl max first ∈ first :: rest ∧ ∀ epoch ∈ first :: rest, epoch ≤ rest.foldl max first :=
  List.max?_eq_some_iff.mp List.max?_cons'

/-- The supervisor takes up the newest of the reconnects that are scheduled, so the current one is
not lost. -/
theorem Schedule.scheduled_collected (schedule : Schedule s failed) (first : Nat) (rest : List Nat)
    (idle : s.supervisor.expected? = none) (scheduled : s.signals = first :: rest)
    (epoch : t.epoch = s.epoch) (signals : t.signals = [])
    (expected : t.supervisor.expected? = some (rest.foldl max first)) :
    Scheduled t ↔ Scheduled s := by
  obtain ⟨member, newest⟩ := newest_scheduled first rest
  rw [← scheduled] at member newest
  have bound := schedule.signals _ member
  unfold Scheduled
  rw [signals, expected, epoch, idle]
  constructor
  · rintro (none | engaged)
    · exact absurd none List.not_mem_nil
    · rw [Option.some.inj engaged] at member
      exact .inl member
  · rintro (current | engaged)
    · have above := newest _ current
      exact .inr (congrArg some (Nat.le_antisymm bound above))
    · exact absurd engaged.symm (Option.some_ne_none _)

theorem Schedule.of_collected (schedule : Schedule s failed) (first : Nat) (rest : List Nat)
    (idle : s.supervisor.expected? = none) (scheduled : s.signals = first :: rest)
    (phase : t.phase = s.phase) (epoch : t.epoch = s.epoch) (signals : t.signals = [])
    (expected : t.supervisor.expected? = some (rest.foldl max first)) : Schedule t failed := by
  have same := schedule.scheduled_collected first rest idle scheduled epoch signals expected
  refine schedule.of_scheduled ?_ ?_ same (.of_phase phase) phase.trans
  · rw [signals]
    exact fun _ none => absurd none List.not_mem_nil
  · intro old engaged
    rw [expected] at engaged
    rw [← Option.some.inj engaged, epoch]
    refine schedule.signals _ ?_
    rw [scheduled]
    exact (newest_scheduled first rest).1

theorem Schedule.scheduled_released (schedule : Schedule s failed) (expected : Nat)
    (engaged : s.supervisor.expected? = some expected)
    (stale : s.epoch ≠ expected ∨ s.phase = .userDisconnect) (epoch : t.epoch = s.epoch)
    (signals : t.signals = s.signals) (idle : t.supervisor.expected? = none) :
    Scheduled t ↔ Scheduled s := by
  unfold Scheduled
  rw [signals, idle, epoch, engaged]
  constructor
  · rintro (current | none)
    · exact .inl current
    · exact absurd none.symm (Option.some_ne_none _)
  · rintro (current | same)
    · exact .inl current
    · rcases stale with moved | closed
      · exact absurd (Option.some.inj same).symm moved
      · have cause := schedule.cause (.inr (engaged.trans same))
        rcases cause with lost | live
        · exact absurd (closed.symm.trans lost) Phase.noConfusion
        · exact absurd closed live.2.opened

theorem Schedule.of_released (schedule : Schedule s failed) (expected : Nat)
    (engaged : s.supervisor.expected? = some expected)
    (stale : s.epoch ≠ expected ∨ s.phase = .userDisconnect) (phase : t.phase = s.phase)
    (epoch : t.epoch = s.epoch) (signals : t.signals = s.signals)
    (idle : t.supervisor.expected? = none) : Schedule t failed := by
  have same := schedule.scheduled_released expected engaged stale epoch signals idle
  refine schedule.of_scheduled ?_ ?_ same (.of_phase phase) phase.trans
  · rw [signals, epoch]
    exact schedule.signals
  · intro old current
    rw [idle] at current
    exact absurd current.symm (Option.some_ne_none old)

theorem Schedule.of_attempt {inVain : Bool} (schedule : Schedule s failed)
    (phase : t.phase = .connecting) (epoch : t.epoch = s.epoch + 1) (signals : t.signals = s.signals)
    (expected : t.supervisor.expected? = if inVain then some (s.epoch + 1) else none) :
    Schedule t inVain := by
  have older : ∀ epoch ∈ t.signals, epoch ≤ s.epoch := by
    rw [signals]
    exact schedule.signals
  have scheduled : Scheduled t ↔ inVain = true := by
    unfold Scheduled
    rw [expected, epoch]
    constructor
    · rintro (member | engaged)
      · have bound := older _ member
        omega
      · by_contra taken
        rw [if_neg taken] at engaged
        exact absurd engaged.symm (Option.some_ne_none _)
    · intro refused
      exact .inr (if_pos refused)
  constructor
  · intro old member
    have bound := older old member
    omega
  · intro old engaged
    rw [expected] at engaged
    split at engaged
    · rw [← Option.some.inj engaged, epoch]
    · exact absurd engaged.symm (Option.some_ne_none old)
  · exact fun here => .inr ⟨scheduled.mp here, .inl phase⟩
  · exact fun refused => ⟨scheduled.mpr refused, .inr (.inl phase)⟩

end

theorem Schedule.after (schedule : Schedule s failed) (history : History s accepted) (m : Move) :
    Schedule (s.after m) (stillFailed m s failed) := by
  have kept (same : (s.after m).signals = s.signals) :
      (s.after m).signals ≠ s.signals ++ [s.epoch] := by
    rw [same]
    exact append_ne _ _
  cases passage history.awake m with
  | still quiet unmoved phase recovery =>
    rw [stillFailed_of_unmoved quiet.unasked unmoved.epoch (kept unmoved.signals)]
    rcases phase with same | both
    · exact schedule.of_unmoved unmoved (.of_phase same) same.trans
    · refine schedule.of_unmoved unmoved (fun _ => .inr both.2) fun lost => ?_
      rw [lost] at both
      exact absurd both.1 Bool.false_ne_true
  | collected first rest idle scheduled quiet phase recovery epoch signals expected =>
    have gone : (s.after m).signals ≠ s.signals ++ [s.epoch] := by simp [signals]
    rw [stillFailed_of_unmoved quiet.unasked epoch gone]
    exact schedule.of_collected first rest idle scheduled phase epoch signals expected
  | released expected engaged stale quiet phase recovery epoch signals idle =>
    rw [stillFailed_of_unmoved quiet.unasked epoch (kept signals)]
    exact schedule.of_released expected engaged stale phase epoch signals idle
  | connects caller step asked phase epoch signals expected =>
    have byHand : isSupervision m = false := by rw [isSupervision, step]
    rw [stillFailed_of_epoch epoch, byHand]
    exact schedule.of_epoch epoch signals expected
  | attempts now step current opened asked phase epoch signals expected =>
    have supervised : isSupervision m = true := by rw [isSupervision, step]
    rw [stillFailed_of_epoch epoch, supervised, Bool.true_and]
    exact schedule.of_attempt phase epoch signals expected
  | closes caller step quiet phase epoch signals expected =>
    rw [stillFailed_of_epoch epoch, asksInVain_of_unasked quiet.unasked, Bool.and_false]
    exact schedule.of_epoch epoch signals expected
  | welcomed connecting unasked accepting phase unmoved =>
    rw [stillFailed_of_unmoved unasked unmoved.epoch (kept unmoved.signals)]
    refine schedule.of_unmoved unmoved (fun _ => .inr phase) fun lost => ?_
    exact absurd (connecting.symm.trans lost) Phase.noConfusion
  | ignored elsewhere unasked accepting phase recovery unmoved =>
    rw [stillFailed_of_unmoved unasked unmoved.epoch (kept unmoved.signals)]
    exact schedule.of_unmoved unmoved (.of_phase phase) phase.trans
  | turnedAway connecting quiet phase recovery epoch signals expected =>
    rw [stillFailed_of_epoch epoch, asksInVain_of_unasked quiet.unasked, Bool.and_false]
    exact schedule.of_epoch epoch signals expected
  | missed code closed connecting quiet phase recovery epoch signals expected =>
    have missing : misses m s = true := by
      obtain ⟨e, seen, kind⟩ := Option.map_eq_some_iff.mp closed
      simp [misses, connecting, seen, kind]
    rw [stillFailed_of_misses missing epoch]
    obtain ⟨scheduled, older, stale⟩ := schedule.of_end epoch signals expected
    exact ⟨older, stale, fun _ => .inr ⟨rfl, .inl phase⟩, fun _ => ⟨scheduled, .inr (.inl phase)⟩⟩
  | lost established quiet phase recovery epoch signals expected =>
    obtain ⟨scheduled, older, stale⟩ := schedule.of_end epoch signals expected
    exact ⟨older, stale, fun _ => .inl phase, fun _ => ⟨scheduled, .inl phase⟩⟩
  | settled last away opened quiet phase recovery unmoved =>
    rw [stillFailed_of_unmoved quiet.unasked unmoved.epoch (kept unmoved.signals)]
    refine schedule.of_unmoved unmoved (fun _ => .inr (by rw [phase]; rfl)) fun lost => ?_
    rw [history.lost lost] at recovery
    exact absurd recovery Bool.false_ne_true

theorem failedAfter_append (first second : List Move) (s : Session) (failed : Bool) :
    failedAfter (first ++ second) s failed =
      failedAfter second (run first s) (failedAfter first s failed) := by
  induction first generalizing s failed with
  | nil => rfl
  | cons m rest ih => exact ih _ _

theorem Schedule.run (schedule : Schedule s failed) (history : History s accepted)
    (moves : List Move) : Schedule (run moves s) (failedAfter moves s failed) := by
  induction moves generalizing s accepted failed with
  | nil => exact schedule
  | cons m rest ih => exact ih (schedule.after history m) (history.after m)

end DurableMqtt.Session
