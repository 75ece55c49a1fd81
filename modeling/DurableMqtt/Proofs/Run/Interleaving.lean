import DurableMqtt.Proofs.Run.Turn

/-!
Runs in which the other sides act between two chores of the consumer.

The handling of an event is a list of chores, and nothing holds off the application or the
supervisor while it is worked through. What the consumer has read may be out of date when it comes
to be used, so the chores are followed here one by one.
-/

namespace DurableMqtt

/-- The least that one side does while the others wait. -/
inductive Act where
  /-- A step of the application, the engine or the supervisor. -/
  | move (m : Move) (others : m.isConsumers = false)
  /-- The consumer takes up what comes next. -/
  | turn (now : Instant)
  /-- The consumer does the first of the chores that are left. -/
  | work (engine : Engine) (now : Instant)

namespace Session

def act (a : Act) (s : Session) : Session :=
  match a with
  | .move m _ => s.after m
  | .turn now => s.turn now
  | .work engine now => s.work engine now

def acted : List Act → Session → Session
  | [], s => s
  | a :: rest, s => acted rest (s.act a)

variable {s t u : Session} {engine : Engine} {now : Instant}

theorem work_eq {chore : Chore} {rest : List Chore} (chores : s.consumer.chores = chore :: rest)
    (running : s.consumer.halted = false) :
    s.work engine now =
      (perform engine now chore s).2.withChores
        (if (perform engine now chore s).2.consumer.halted then []
        else (perform engine now chore s).1 ++ rest) := by
  have same : s.withChores (chore :: rest) = s := by
    unfold withChores
    rw [← chores]
  rw [← work_withChores chore rest s running, same]

theorem work_idle (idle : s.consumer.chores = []) : s.work engine now = s := by
  simp only [work, idle]

/-! ### Uninterrupted turns -/

theorem acted_works (n : Nat) (s : Session) :
    acted (List.replicate n (.work engine now)) s = worked engine now n s := by
  induction n generalizing s with
  | zero => rfl
  | succ n ih => exact ih _

/-- A turn that nobody interrupts is two more moves of a run. -/
theorem acted_isRun (settings : Settings) (moves : List Move) (engine : Engine) (now : Instant) :
    let s := run moves (start settings)
    acted (.turn now ::
        List.replicate (Chore.totalWeight (s.turn now).consumer.chores) (.work engine now)) s =
      run (moves ++ [⟨.dispatch now, engine⟩, ⟨.tick now, engine⟩]) (start settings) := by
  intro s
  rw [← turn_isRun]
  exact acted_works _ _

/-! ### What a chore leaves alone -/

/-- What most chores leave alone: all that the supervisor goes by. They neither give up a
connection nor revive one that the application has closed. -/
structure Secluded (s t : Session) : Prop where
  epoch : t.epoch = s.epoch
  signals : t.signals = s.signals
  supervisor : t.supervisor = s.supervisor
  idle : t.phase = .idle → s.phase = .idle
  closed : s.phase = .userDisconnect → t.phase = .userDisconnect

/-- What most steps leave alone: the queue. They make no session stable. -/
structure Apart (s t : Session) : Prop where
  queue : t.queue = s.queue
  stable : t.phase = .stable → s.phase = .stable

structure Confined (s t : Session) : Prop extends Secluded s t, Apart s t

namespace Secluded

theorem of_phase (epoch : t.epoch = s.epoch) (signals : t.signals = s.signals)
    (supervisor : t.supervisor = s.supervisor) (phase : t.phase = s.phase) : Secluded s t where
  epoch := epoch
  signals := signals
  supervisor := supervisor
  idle := phase.symm.trans
  closed := phase.trans

theorem refl (s : Session) : Secluded s s := of_phase rfl rfl rfl rfl

theorem trans (first : Secluded s t) (second : Secluded t u) : Secluded s u where
  epoch := second.epoch.trans first.epoch
  signals := second.signals.trans first.signals
  supervisor := second.supervisor.trans first.supervisor
  idle := first.idle ∘ second.idle
  closed := second.closed ∘ first.closed

theorem write {next : Phase} (epoch : t.epoch = s.epoch) (signals : t.signals = s.signals)
    (supervisor : t.supervisor = s.supervisor) (phase : t.phase = s.phase.write next)
    (established : next.isConnected ∨ next = .abnormalDisconnect) : Secluded s t where
  epoch := epoch
  signals := signals
  supervisor := supervisor
  idle := by
    intro idle
    rw [phase] at idle
    unfold Phase.write at idle
    split at idle
    · simp [idle, Phase.isConnected] at established
    · exact idle
  closed := by
    intro closed
    rw [phase, closed]
    have open' : next ≠ .connecting := by
      rintro rfl
      simp [Phase.isConnected] at established
    simp [Phase.write, Phase.accepts, open']

end Secluded

namespace Apart

theorem of_phase (queue : t.queue = s.queue) (phase : t.phase = s.phase) : Apart s t where
  queue := queue
  stable := phase.symm.trans

theorem refl (s : Session) : Apart s s := of_phase rfl rfl

theorem trans (first : Apart s t) (second : Apart t u) : Apart s u where
  queue := second.queue.trans first.queue
  stable := first.stable ∘ second.stable

theorem write {next : Phase} (queue : t.queue = s.queue) (phase : t.phase = s.phase.write next)
    (other : next ≠ .stable) : Apart s t where
  queue := queue
  stable := by
    intro stable
    rw [phase, Phase.write] at stable
    split at stable
    · exact absurd stable other
    · exact stable

end Apart

namespace Confined

theorem of_phase (epoch : t.epoch = s.epoch) (signals : t.signals = s.signals)
    (supervisor : t.supervisor = s.supervisor) (queue : t.queue = s.queue)
    (phase : t.phase = s.phase) : Confined s t where
  toSecluded := .of_phase epoch signals supervisor phase
  toApart := .of_phase queue phase

theorem refl (s : Session) : Confined s s := of_phase rfl rfl rfl rfl rfl

theorem trans (first : Confined s t) (second : Confined t u) : Confined s u where
  toSecluded := first.toSecluded.trans second.toSecluded
  toApart := first.toApart.trans second.toApart

theorem write {next : Phase} (epoch : t.epoch = s.epoch) (signals : t.signals = s.signals)
    (supervisor : t.supervisor = s.supervisor) (queue : t.queue = s.queue)
    (phase : t.phase = s.phase.write next) (recovering : next = .resubscribing ∨ next = .draining) :
    Confined s t where
  toSecluded := by
    refine .write epoch signals supervisor phase (.inl ?_)
    rcases recovering with rfl | rfl <;> rfl
  toApart := by
    refine .write queue phase ?_
    rcases recovering with rfl | rfl <;> exact Phase.noConfusion

theorem enterDraining (s : Session) : Confined s (s.enterDraining now) := by
  rw [enterDraining_eq]
  by_cases closed : s.phase = .userDisconnect
  · rw [if_pos closed]
    exact of_phase rfl rfl rfl rfl rfl
  · rw [if_neg closed]
    exact write rfl rfl rfl rfl (Phase.write_of_open _ _ closed).symm (.inr rfl)

theorem welcome (s : Session) : Confined s (s.welcome now) := by
  rw [welcome_eq]
  by_cases connecting : s.phase = .connecting
  · rw [if_pos connecting]
    have opened : s.phase ≠ .userDisconnect := by simp [connecting]
    refine write rfl rfl rfl rfl (Phase.write_of_open _ _ opened).symm ?_
    split
    · exact .inr rfl
    · exact .inl rfl
  · rw [if_neg connecting]
    exact of_phase rfl rfl rfl rfl rfl

theorem leave (code : UInt8) (epoch : Nat) (s : Session) : Confined s (s.leave code epoch).2 := by
  simp only [Session.leave, goOffline_eq, withRecovery]
  split <;> exact of_phase rfl rfl rfl rfl rfl

theorem acknowledge (id : RequestId) (ack : Ack) (s : Session) :
    Confined s (s.acknowledge now id ack) := by
  cases found : s.pending.find? id with
  | none =>
    rw [acknowledge_unknown now id ack s found]
    exact refl s
  | some entry =>
    obtain ⟨consumer, settled, -⟩ := acknowledge_eq now id ack entry s found
    rw [settled]
    by_cases last : (entry.resubscribe && s.awaitsLast) = true
    · exact write rfl rfl rfl rfl (if_pos last) (.inr rfl)
    · exact of_phase rfl rfl rfl rfl (if_neg last)

theorem deliver (m : Message) (s : Session) : Confined s (s.deliver m) := by
  obtain ⟨consumer, effects, delivered, -⟩ := deliver_eq m s
  rw [delivered]
  exact of_phase rfl rfl rfl rfl rfl

theorem pace (s : Session) : Confined s s.pace.2 := by
  unfold Session.pace
  split
  · simp only
    split <;> exact refl s
  · exact of_phase rfl rfl rfl rfl rfl

theorem scheduleTick (interval : Duration) (s : Session) :
    Confined s (s.scheduleTick now interval) := by
  obtain ⟨consumer, scheduled, -⟩ := scheduleTick_eq now interval s
  rw [scheduled]
  exact of_phase rfl rfl rfl rfl rfl

theorem resubscribeNext (r : Recovery) (s : Session) :
    Confined s (s.resubscribeNext engine r) := by
  unfold Session.resubscribeNext
  split
  next record unsent outstanding stage =>
    rw [resubscribe_eq]
    cases engine (.subscribe record.topic record.qos) <;> exact of_phase rfl rfl rfl rfl rfl
  next => exact refl s

theorem resubscribeOne (interval : Duration) (s : Session) :
    Confined s (s.resubscribeOne engine now interval) := by
  unfold Session.resubscribeOne
  cases s.consumer.recovery with
  | none => exact refl s
  | some r =>
    have sent : Confined s ((s.resubscribeNext engine r).scheduleTick now interval) :=
      (resubscribeNext r s).trans (scheduleTick interval _)
    simp only
    split
    · exact sent
    · split
      · exact sent.trans (enterDraining _)
      · exact sent

end Confined

namespace Secluded

theorem loseSession (s : Session) : Secluded s s.loseSession := by
  rw [loseSession_eq]
  exact write rfl rfl rfl rfl (.inr rfl)

theorem replayHead (a : Accepted) (s : Session) : Secluded s (s.replayHead engine a) := by
  unfold Session.replayHead
  rw [issue_eq]
  cases engine a.request.call with
  | ok number => exact of_phase rfl rfl rfl rfl
  | error cause =>
    simp only [respond_eq]
    split <;> exact of_phase rfl rfl rfl rfl

theorem drainOne (interval : Duration) (s : Session) :
    Secluded s (s.drainOne engine now interval) := by
  unfold Session.drainOne
  split
  · simp only
    split
    · exact write rfl rfl rfl rfl (.inl rfl)
    · exact of_phase rfl rfl rfl rfl
  next a queue popped =>
    have taken : Secluded s { s with queue } := of_phase rfl rfl rfl rfl
    have sent : Secluded s ({ s with queue }.replayHead engine a) := taken.trans (replayHead a _)
    exact sent.trans (Confined.scheduleTick interval _).toSecluded

end Secluded

/-- Only the refusal of an attempt and the request for a reconnect reach the supervisor, and only
the end of a session and a replay reach the queue. -/
theorem perform_confined (chore : Chore) (s : Session) (unrefused : chore ≠ .refuse)
    (unrequested : ∀ epoch, chore ≠ .requestReconnect epoch) (kept : chore ≠ .loseSession)
    (undrained : ∀ interval, chore ≠ .drainOne interval) :
    Confined s (perform engine now chore s).2 := by
  cases chore with
  | answer id ack =>
    simp only [perform, answer_eq]
    exact .of_phase rfl rfl rfl rfl rfl
  | welcome => exact .welcome s
  | refuse => exact absurd rfl unrefused
  | readEpoch code => exact .refl s
  | leave code epoch => exact .leave code epoch s
  | loseSession => exact absurd rfl kept
  | stopTimer => exact .of_phase rfl rfl rfl rfl rfl
  | stopIo => exact .of_phase rfl rfl rfl rfl rfl
  | clearPending => exact .of_phase rfl rfl rfl rfl rfl
  | requestReconnect epoch => exact absurd rfl (unrequested epoch)
  | acknowledge id ack => exact .acknowledge id ack s
  | deliver m => exact .deliver m s
  | checkDue => exact .refl s
  | pace => exact .pace s
  | resubscribeOne interval => exact .resubscribeOne interval s
  | drainOne interval => exact absurd rfl (undrained interval)

theorem perform_secluded (chore : Chore) (s : Session) (unrefused : chore ≠ .refuse)
    (unrequested : ∀ epoch, chore ≠ .requestReconnect epoch) :
    Secluded s (perform engine now chore s).2 := by
  cases chore with
  | loseSession => exact .loseSession s
  | drainOne interval => exact .drainOne interval s
  | _ =>
    exact (perform_confined _ s unrefused unrequested Chore.noConfusion
      fun _ => Chore.noConfusion).toSecluded

theorem turn_confined (s : Session) : Confined s (s.turn now) := by
  unfold turn
  split
  · exact .refl s
  · split
    · exact .of_phase rfl rfl rfl rfl rfl
    · split
      · exact .of_phase rfl rfl rfl rfl rfl
      · exact .refl s
    · exact .refl s

end Session

end DurableMqtt
