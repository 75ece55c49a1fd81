import DurableMqtt.Proofs.Run.Passage

/-!
When a session counts as connected without the broker's consent.

A session that is connected was accepted since it last asked for a connection, with one
exception: a subscription that an older session sent again is acknowledged while the session is
connecting or idle, and was the last one that its resubscription waited for. Nothing in the
settling of a resubscription looks at the phase.
-/

namespace DurableMqtt.Session

variable {s : Session} {m : Move} {accepted : Bool}

/-- Whether a session has been accepted since it last asked for a connection, after a step. -/
def stillAccepted (m : Move) (s : Session) (accepted : Bool) : Bool :=
  !asks m s && (accepted || accepts m s)

def acceptedAfter : List Move → Session → Bool → Bool
  | [], _, accepted => accepted
  | m :: rest, s, accepted => acceptedAfter rest (s.after m) (stillAccepted m s accepted)

/-- A step ends the resubscription of an older session while no session is up. -/
def isLate (m : Move) (s : Session) : Bool :=
  settlesLast m s && (s.phase == .connecting || s.phase == .idle)

/-- What is known of a session by its phase and by whether it was accepted. -/
structure History (s : Session) (accepted : Bool) : Prop where
  awake : s.Awake
  connecting : s.phase = .connecting → accepted = false
  /-- A recovery that an idle session still walks is that of an attempt before. -/
  idle : s.phase = .idle → s.isRecovering → accepted = false
  lost : s.phase = .abnormalDisconnect → s.isRecovering = false

theorem History.start (settings : Settings) : History (start settings) false where
  awake := .start settings
  connecting := fun _ => rfl
  idle := fun _ _ => rfl
  lost := fun _ => rfl

theorem stillAccepted_of_asks (asked : asks m s = true) : stillAccepted m s accepted = false := by
  rw [stillAccepted, asked]
  rfl

theorem stillAccepted_of_quiet (quiet : Quiet m s) : stillAccepted m s accepted = accepted := by
  rw [stillAccepted, quiet.unasked, quiet.unaccepted, Bool.or_false]
  rfl

section

variable {t : Session}

theorem History.same (history : History s accepted) (awake : t.Awake) (phase : t.phase = s.phase)
    (recovery : t.isRecovering → s.isRecovering) : History t accepted where
  awake := awake
  connecting := fun connecting => history.connecting (phase.symm.trans connecting)
  idle := fun idle recovering => history.idle (phase.symm.trans idle) (recovery recovering)
  lost := by
    intro lost
    have rested := history.lost (phase.symm.trans lost)
    by_contra recovering
    rw [recovery (Bool.eq_true_of_not_eq_false recovering)] at rested
    exact absurd rested.symm Bool.false_ne_true

theorem History.unaccepted (awake : t.Awake) (elsewhere : t.phase ≠ .abnormalDisconnect) :
    History t false where
  awake := awake
  connecting := fun _ => rfl
  idle := fun _ _ => rfl
  lost := fun lost => absurd lost elsewhere

theorem History.aside (awake : t.Awake) (aside : t.phase.isConnected ∨ t.phase = .userDisconnect) :
    History t accepted where
  awake := awake
  connecting := fun phase => by simp [phase, Phase.isConnected] at aside
  idle := fun phase => by simp [phase, Phase.isConnected] at aside
  lost := fun phase => by simp [phase, Phase.isConnected] at aside

end

theorem History.after (history : History s accepted) (m : Move) :
    History (s.after m) (stillAccepted m s accepted) := by
  have awake := history.awake.after m
  have passed := passage history.awake m
  generalize s.after m = t at awake passed ⊢
  cases passed with
  | still quiet unmoved phase recovery =>
    rw [stillAccepted_of_quiet quiet]
    rcases phase with same | up
    · exact history.same awake same recovery
    · exact .aside awake (.inl up.2)
  | collected first rest idle scheduled quiet phase recovery epoch signals expected =>
    rw [stillAccepted_of_quiet quiet]
    exact history.same awake phase recovery
  | released expected engaged stale quiet phase recovery epoch signals idle =>
    rw [stillAccepted_of_quiet quiet]
    exact history.same awake phase recovery
  | connects caller step asked phase epoch signals expected =>
    rw [stillAccepted_of_asks asked]
    refine .unaccepted awake fun lost => ?_
    rcases phase with phase | phase <;> exact absurd (phase.symm.trans lost) Phase.noConfusion
  | attempts now step current opened asked phase epoch signals expected =>
    rw [stillAccepted_of_asks asked]
    exact .unaccepted awake fun lost => absurd (phase.symm.trans lost) Phase.noConfusion
  | closes caller step quiet phase epoch signals expected => exact .aside awake (.inr phase)
  | welcomed connecting unasked accepted phase unmoved => exact .aside awake (.inl phase)
  | ignored elsewhere unasked accepting phase recovery unmoved =>
    refine ⟨awake, fun connecting => ?_, fun _ recovering => ?_, fun _ => recovery⟩
    · exact absurd (phase.symm.trans connecting) elsewhere
    · rw [recovery] at recovering
      exact absurd recovering Bool.false_ne_true
  | turnedAway connecting quiet phase recovery epoch signals expected =>
    rw [stillAccepted_of_quiet quiet, history.connecting connecting]
    exact .unaccepted awake fun lost => absurd (phase.symm.trans lost) Phase.noConfusion
  | missed code closed connecting quiet phase recovery epoch signals expected =>
    rw [stillAccepted_of_quiet quiet, history.connecting connecting]
    exact .unaccepted awake fun lost => absurd (phase.symm.trans lost) Phase.noConfusion
  | lost established quiet phase recovery epoch signals expected =>
    refine ⟨awake, fun connecting => ?_, fun idle => ?_, fun _ => recovery⟩
    · exact absurd (phase.symm.trans connecting) Phase.noConfusion
    · exact absurd (phase.symm.trans idle) Phase.noConfusion
  | settled last away opened quiet phase recovery unmoved =>
    exact .aside awake (.inl (by rw [phase]; rfl))

theorem History.up (history : History s accepted) (m : Move) (up : (s.after m).phase.isConnected)
    (onTime : isLate m s = false) :
    asks m s = false ∧ (s.phase.isConnected ∨ accepts m s = true) := by
  have passed := passage history.awake m
  generalize s.after m = t at passed up
  have down {phase : Phase} (same : t.phase = phase) (down : phase.isConnected = false) : False := by
    rw [same, down] at up
    exact absurd up Bool.false_ne_true
  cases passed with
  | still quiet unmoved phase recovery =>
    refine ⟨quiet.unasked, .inl ?_⟩
    rcases phase with same | both
    · rwa [same] at up
    · exact both.1
  | collected first rest idle scheduled quiet phase recovery epoch signals expected =>
    exact ⟨quiet.unasked, .inl (by rwa [phase] at up)⟩
  | released expected engaged stale quiet phase recovery epoch signals idle =>
    exact ⟨quiet.unasked, .inl (by rwa [phase] at up)⟩
  | connects caller step asked phase epoch signals expected =>
    exact (phase.elim (fun same => down same rfl) fun same => down same rfl).elim
  | attempts now step current opened asked phase epoch signals expected => exact (down phase rfl).elim
  | closes caller step quiet phase epoch signals expected => exact (down phase rfl).elim
  | welcomed connecting unasked accepting phase unmoved => exact ⟨unasked, .inr accepting⟩
  | ignored elsewhere unasked accepting phase recovery unmoved => exact ⟨unasked, .inr accepting⟩
  | turnedAway connecting quiet phase recovery epoch signals expected => exact (down phase rfl).elim
  | missed code closed connecting quiet phase recovery epoch signals expected =>
    exact (down phase rfl).elim
  | lost established quiet phase recovery epoch signals expected =>
    exact (down phase rfl).elim
  | settled last away opened quiet phase recovery unmoved =>
    have late : isLate m s = true := by
      rw [isLate, last]
      cases here : s.phase with
      | connecting => rfl
      | idle => rfl
      | abnormalDisconnect =>
        rw [history.lost here] at recovery
        exact absurd recovery Bool.false_ne_true
      | userDisconnect => exact absurd here opened
      | _ =>
        rw [here] at away
        exact absurd away.symm Bool.false_ne_true
    rw [late] at onTime
    exact absurd onTime.symm Bool.false_ne_true

/-- What a late acknowledgment does: a session is up that was not accepted. -/
theorem History.late (history : History s accepted) (m : Move) (late : isLate m s = true) :
    (s.after m).phase.isConnected ∧ stillAccepted m s accepted = false := by
  obtain ⟨last, phase⟩ := (Bool.and_eq_true _ _).mp late
  obtain ⟨after, recovering, quiet⟩ := after_of_settlesLast last
  rw [after, stillAccepted_of_quiet quiet]
  rcases (Bool.or_eq_true _ _).mp phase with connecting | idle
  · have connecting := eq_of_beq connecting
    rw [connecting]
    exact ⟨rfl, history.connecting connecting⟩
  · have idle := eq_of_beq idle
    rw [idle]
    exact ⟨rfl, history.idle idle recovering⟩

theorem acceptedAfter_append (first second : List Move) (s : Session) (accepted : Bool) :
    acceptedAfter (first ++ second) s accepted =
      acceptedAfter second (run first s) (acceptedAfter first s accepted) := by
  induction first generalizing s accepted with
  | nil => rfl
  | cons m rest ih => exact ih _ _

theorem History.run (history : History s accepted) (moves : List Move) :
    History (run moves s) (acceptedAfter moves s accepted) := by
  induction moves generalizing s accepted with
  | nil => exact history
  | cons m rest ih => exact ih (history.after m)

theorem History.accepted_of_onTime (history : History s accepted) (moves : List Move)
    (here : s.phase.isConnected → accepted = true)
    (onTime : ∀ before m, before ++ [m] <+: moves → isLate m (Session.run before s) = false)
    (up : (Session.run moves s).phase.isConnected) : acceptedAfter moves s accepted = true := by
  induction moves generalizing s accepted with
  | nil => exact here up
  | cons m rest ih =>
    refine ih (history.after m) (fun next => ?_) (fun before later split => ?_) up
    · obtain ⟨unasked, cause⟩ := history.up m next (onTime [] m ⟨rest, rfl⟩)
      rw [stillAccepted, unasked]
      rcases cause with connected | accepting
      · rw [here connected]
        rfl
      · rw [accepting, Bool.or_true]
        rfl
    · obtain ⟨last, split⟩ := split
      exact onTime (m :: before) later ⟨last, by rw [← split]; rfl⟩

/-- A session comes to be up without having been accepted since it last asked for a connection
in just those runs in which a resubscription is settled late. -/
theorem unaccepted_iff_late (settings : Settings) (moves : List Move) :
    (∃ before, before <+: moves ∧ (run before (start settings)).phase.isConnected ∧
      acceptedAfter before (start settings) false = false) ↔
    ∃ before m, before ++ [m] <+: moves ∧ isLate m (run before (start settings)) = true := by
  constructor
  · rintro ⟨before, part, up, unaccepted⟩
    by_contra none
    have accepted := (History.start settings).accepted_of_onTime before
      (fun up => absurd up Bool.false_ne_true)
      (fun earlier m split => Bool.eq_false_of_not_eq_true fun late =>
        none ⟨earlier, m, split.trans part, late⟩) up
    rw [unaccepted] at accepted
    exact absurd accepted Bool.false_ne_true
  · rintro ⟨before, m, part, late⟩
    obtain ⟨up, unaccepted⟩ := ((History.start settings).run before).late m late
    refine ⟨before ++ [m], part, ?_, ?_⟩
    · rw [run_append]
      exact up
    · rw [acceptedAfter_append]
      exact unaccepted

/-- The application closes a session that is being restored and connects again at once. The
acknowledgment of the restored subscription arrives before the broker has answered. -/
def lateRun : List Move :=
  [⟨.connect (.notified none), numbering 1⟩, ⟨.report (.connack 0), numbering 1⟩,
   ⟨.dispatch 0, numbering 1⟩, ⟨.tick 0, numbering 1⟩,
   ⟨.request ⟨"t", .subscribe .atMostOnce ⟨"h"⟩, none⟩ (.notified none), numbering 1⟩,
   ⟨.report (.suback 1 (.granted .atMostOnce)), numbering 1⟩, ⟨.dispatch 0, numbering 1⟩,
   ⟨.disconnect (.notified none), numbering 1⟩, ⟨.connect (.notified none), numbering 1⟩,
   ⟨.report (.connack 0), numbering 1⟩, ⟨.dispatch 0, numbering 1⟩, ⟨.tick 0, numbering 2⟩,
   ⟨.disconnect (.notified none), numbering 1⟩, ⟨.connect (.notified none), numbering 1⟩,
   ⟨.report (.suback 2 (.granted .atMostOnce)), numbering 1⟩, ⟨.dispatch 0, numbering 1⟩]

theorem lateRun_unaccepted :
    (run (lateRun.take 15) (start .standard)).phase = .connecting ∧
      (run lateRun (start .standard)).phase = .draining ∧
      acceptedAfter lateRun (start .standard) false = false := by
  decide +kernel

end DurableMqtt.Session
