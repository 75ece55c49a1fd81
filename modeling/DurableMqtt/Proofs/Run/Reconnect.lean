import DurableMqtt.Proofs.Run.Pursuit

/-!
No reconnect is lost.

A session without a connection waits for one: it was lost, or the last attempt to connect came to
nothing. In each of these states a reconnect of the current epoch is scheduled or under way, so the
supervisor will connect. A burst of reconnects that is taken up as one, a cycle that is given up as
superseded and a new epoch all take the session out of these states or keep the current reconnect.
-/

namespace DurableMqtt.Session

variable {s t : Session} {m : Move} {accepted failed vain : Bool}

/-- Whether the last attempt to connect came to nothing, after a step: its connection has ended, or
it was the supervisor's and the engine refused it. -/
def stillVain (m : Move) (s : Session) (vain : Bool) : Bool :=
  if asks m s then isSupervision m && asksInVain m s else vain || hangsUp m s

def vainAfter : List Move → Session → Bool → Bool
  | [], _, vain => vain
  | m :: rest, s, vain => vainAfter rest (s.after m) (stillVain m s vain)

/-- The session has no connection, and leaves it to the supervisor to ask for one. -/
def AwaitsReconnect (s : Session) (vain : Bool) : Prop :=
  s.phase = .abnormalDisconnect ∨ s.phase = .connecting ∧ vain = true

theorem AwaitsReconnect.opened (awaits : AwaitsReconnect s vain) : s.phase ≠ .userDisconnect := by
  intro closed
  rcases awaits with lost | ⟨connecting, -⟩
  · exact absurd (closed.symm.trans lost) Phase.noConfusion
  · exact absurd (closed.symm.trans connecting) Phase.noConfusion

structure Watched (s : Session) (failed vain : Bool) : Prop where
  lost : s.phase = .abnormalDisconnect → Scheduled s
  /-- While the session is connecting, its epoch began with the last attempt. -/
  connecting : s.phase = .connecting → vain = failed

theorem Watched.start (settings : Settings) : Watched (start settings) false false where
  lost := fun phase => absurd phase Phase.noConfusion
  connecting := fun phase => absurd phase Phase.noConfusion

theorem Watched.scheduled (watched : Watched s failed vain) (schedule : Schedule s failed)
    (awaits : AwaitsReconnect s vain) : Scheduled s := by
  rcases awaits with lost | ⟨connecting, inVain⟩
  · exact watched.lost lost
  · rw [watched.connecting connecting] at inVain
    exact (schedule.held inVain).1

/-! ### One step -/

theorem stillVain_of_asked (asked : asks m s = true) :
    stillVain m s vain = (isSupervision m && asksInVain m s) := if_pos asked

theorem stillVain_of_unmoved (unasked : asks m s = false) (connecting : s.phase = .connecting)
    (signals : (s.after m).signals ≠ s.signals ++ [s.epoch]) : stillVain m s vain = vain := by
  have onTime : hangsUp m s = false := by
    refine Bool.eq_false_of_not_eq_true fun ended => signals (after_of_misses ?_).2
    rw [misses_eq, connecting, ended]
    rfl
  rw [stillVain, if_neg (ne_true_of_eq_false unasked), onTime, Bool.or_false]

theorem Watched.after (watched : Watched s failed vain) (schedule : Schedule s failed)
    (history : History s accepted) (m : Move) :
    Watched (s.after m) (stillFailed m s failed) (stillVain m s vain) := by
  -- A step that leaves alone the phase and what is scheduled for the current epoch.
  have keeps (phase : (s.after m).phase = s.phase) (same : Scheduled (s.after m) ↔ Scheduled s)
      (unasked : asks m s = false) (epoch : (s.after m).epoch = s.epoch)
      (signals : (s.after m).signals ≠ s.signals ++ [s.epoch]) :
      Watched (s.after m) (stillFailed m s failed) (stillVain m s vain) := by
    refine ⟨fun lost => same.mpr (watched.lost (phase.symm.trans lost)), fun connecting => ?_⟩
    rw [phase] at connecting
    rw [stillFailed_of_unmoved unasked epoch signals,
      stillVain_of_unmoved unasked connecting signals]
    exact watched.connecting connecting
  have unchanged (same : (s.after m).signals = s.signals) :
      (s.after m).signals ≠ s.signals ++ [s.epoch] := by
    rw [same]
    exact append_ne _ _
  -- A step into a phase in which the session waits for nothing.
  have elsewhere (phase : (s.after m).phase ≠ .abnormalDisconnect ∧ (s.after m).phase ≠ .connecting) :
      Watched (s.after m) (stillFailed m s failed) (stillVain m s vain) :=
    ⟨fun lost => absurd lost phase.1, fun connecting => absurd connecting phase.2⟩
  -- An attempt begins a new epoch.
  have attempted (phase : (s.after m).phase ≠ .abnormalDisconnect) (asked : asks m s = true)
      (epoch : (s.after m).epoch = s.epoch + 1) :
      Watched (s.after m) (stillFailed m s failed) (stillVain m s vain) := by
    refine ⟨fun lost => absurd lost phase, fun _ => ?_⟩
    rw [stillVain_of_asked asked, stillFailed_of_epoch epoch]
  cases passage history.awake m with
  | still quiet unmoved phase recovery =>
    rcases phase with same | both
    · exact keeps same (scheduled_of_unmoved unmoved) quiet.unasked unmoved.epoch
        (unchanged unmoved.signals)
    · refine elsewhere ⟨fun lost => ?_, fun connecting => ?_⟩
      · simp [lost, Phase.isConnected] at both
      · simp [connecting, Phase.isConnected] at both
  | collected first rest idle scheduled quiet phase recovery epoch signals expected =>
    have gone : (s.after m).signals ≠ s.signals ++ [s.epoch] := by simp [signals]
    have same := schedule.scheduled_collected first rest idle scheduled epoch signals expected
    exact keeps phase same quiet.unasked epoch gone
  | released expected engaged stale quiet phase recovery epoch signals idle =>
    have same := schedule.scheduled_released expected engaged stale epoch signals idle
    exact keeps phase same quiet.unasked epoch (unchanged signals)
  | connects caller step asked phase epoch signals expected =>
    refine attempted (fun lost => ?_) asked epoch
    simp [lost] at phase
  | attempts now step current opened asked phase epoch signals expected =>
    refine attempted (fun lost => ?_) asked epoch
    simp [lost] at phase
  | closes caller step quiet phase epoch signals expected => exact elsewhere (by simp [phase])
  | welcomed connecting unasked accepting phase unmoved =>
    refine elsewhere ⟨fun lost => ?_, fun connecting => ?_⟩
    · simp [lost, Phase.isConnected] at phase
    · simp [connecting, Phase.isConnected] at phase
  | ignored away unasked accepting phase recovery unmoved =>
    exact keeps phase (scheduled_of_unmoved unmoved) unasked unmoved.epoch
      (unchanged unmoved.signals)
  | turnedAway connecting quiet phase recovery epoch signals expected =>
    exact elsewhere (by simp [phase])
  | missed code closed connecting quiet phase recovery epoch signals expected =>
    have ended : hangsUp m s = true := by
      obtain ⟨e, seen, kind⟩ := Option.map_eq_some_iff.mp closed
      simp [hangsUp, seen, Event.isDisconnect, kind]
    have missing : misses m s = true := by
      rw [misses_eq, connecting, ended]
      rfl
    refine ⟨fun lost => absurd (phase.symm.trans lost) Phase.noConfusion, fun _ => ?_⟩
    rw [stillFailed_of_misses missing epoch, stillVain, quiet.unasked, ended, Bool.or_true]
    rfl
  | lost established quiet phase recovery epoch signals expected =>
    obtain ⟨scheduled, -⟩ := schedule.of_end epoch signals expected
    exact ⟨fun _ => scheduled, fun connecting => absurd (phase.symm.trans connecting) Phase.noConfusion⟩
  | settled last away opened quiet phase recovery unmoved => exact elsewhere (by simp [phase])

/-! ### Runs -/

theorem Watched.run (watched : Watched s failed vain) (schedule : Schedule s failed)
    (history : History s accepted) (moves : List Move) :
    Watched (run moves s) (failedAfter moves s failed) (vainAfter moves s vain) := by
  induction moves generalizing s accepted failed vain with
  | nil => exact watched
  | cons m rest ih =>
    exact ih (watched.after schedule history m) (schedule.after history m) (history.after m)

/-- Whenever a session waits for a connection, a reconnect of the current epoch is scheduled or
under way, and the supervisor, left to itself, connects. -/
theorem awaiting_scheduled (settings : Settings) (moves : List Move)
    (awaits : AwaitsReconnect (run moves (start settings))
      (vainAfter moves (start settings) false)) :
    let s := run moves (start settings)
    (s.epoch ∈ s.signals ∨ s.supervisor.expected? = some s.epoch) ∧
      ∃ stages : List Move, (∀ m ∈ stages, isSupervision m) ∧ (run stages s).phase = s.phase ∧
        ∃ now engine, asks ⟨.supervise now, engine⟩ (run stages s) := by
  intro s
  have history := History.start settings
  have schedule := (Schedule.start settings).run history moves
  have watched := (Watched.start settings).run (Schedule.start settings) history moves
  have scheduled : Scheduled s := watched.scheduled schedule awaits
  have pursued : Pursued s := ⟨(history.run moves).awake, awaits.opened, schedule.signals, scheduled⟩
  exact ⟨scheduled, pursued.connects⟩

/-- A connection ends before it is accepted, and the engine refuses the attempt to replace it. -/
def refusedRun : List Move :=
  [⟨.connect (.notified none), numbering 1⟩, ⟨.report (.disconnect 1), numbering 1⟩,
   ⟨.dispatch 0, numbering 1⟩, ⟨.supervise 0, numbering 1⟩, ⟨.supervise 0, numbering 1⟩,
   ⟨.supervise 0, numbering 1⟩, ⟨.supervise 1000000000, numbering 1⟩,
   ⟨.supervise 1000000000, fun _ => .error .notConnected⟩]

theorem refusedRun_scheduled :
    let s := run refusedRun (start .standard)
    AwaitsReconnect s (vainAfter refusedRun (start .standard) false) ∧ s.phase = .connecting ∧
      ((s.epoch ∈ s.signals ∨ s.supervisor.expected? = some s.epoch) ∧
        ∃ stages : List Move, (∀ m ∈ stages, isSupervision m) ∧ (run stages s).phase = s.phase ∧
          ∃ now engine, asks ⟨.supervise now, engine⟩ (run stages s)) := by
  have connecting : (run refusedRun (start .standard)).phase = .connecting := by decide +kernel
  have inVain : vainAfter refusedRun (start .standard) false = true := by decide +kernel
  exact ⟨.inr ⟨connecting, inVain⟩, connecting,
    awaiting_scheduled .standard refusedRun (.inr ⟨connecting, inVain⟩)⟩

end DurableMqtt.Session
