import DurableMqtt.Proofs.Run.Frame

/-!
The turns of the consumer as steps of a run.

A turn only takes up the chores of an event; they are done one at a time, and what a chore leads
to comes before the rest. Once all of them are done, the session is the one that a dispatch and a
tick lead to.
-/

namespace DurableMqtt

namespace Chore

theorem weight_pos (chore : Chore) : 0 < chore.weight := by
  unfold weight
  split <;> decide

theorem totalWeight_append (first second : List Chore) :
    totalWeight (first ++ second) = totalWeight first + totalWeight second := by
  induction first with
  | nil => simp only [List.nil_append, totalWeight, Nat.zero_add]
  | cons chore rest ih =>
    simp only [List.cons_append, totalWeight, ih]
    omega

theorem totalWeight_eq_zero {chores : List Chore} (light : totalWeight chores = 0) : chores = [] := by
  cases chores with
  | nil => rfl
  | cons chore rest =>
    have positive := chore.weight_pos
    simp only [totalWeight] at light
    omega

end Chore

end DurableMqtt

namespace DurableMqtt.Session

variable {engine : Engine} {now : Instant}

/-! ### One chore -/

def withChores (chores : List Chore) (s : Session) : Session :=
  { s with consumer := { s.consumer with chores } }

def Spares (f : Session → Session) : Prop :=
  ∀ s chores, s.consumer.halted = false →
    f (s.withChores chores) = (f s).withChores (if (f s).consumer.halted then [] else chores)

theorem spares_deliver (m : Message) : Spares (deliver m) := by
  intro s chores running
  simp only [deliver, submitHook_eq, withChores]
  cases s.registry.routing m.topic with
  | error fault => simp [halt]
  | ok found =>
    cases found with
    | none => simp [running]
    | some record => simp [submit, emit, running]

theorem spares_acknowledge (id : RequestId) (ack : Ack) : Spares (acknowledge now id ack) := by
  intro s chores running
  unfold acknowledge PendingTable.take? withChores
  cases found : s.pending.find? id with
  | none => simp [running]
  | some entry =>
    simp only [Option.map_some, respond_eq]
    by_cases restored : entry.resubscribe = true
    · simp only [restored, ↓reduceIte, settleResubscribe]
      cases stage : s.consumer.recovery with
      | none => simp [running, stage]
      | some r =>
        simp only [enterDraining_eq, withRecovery]
        split
        · split <;> simp [running]
        · simp [running]
    · simp [restored, running]

theorem spares_welcome : Spares (welcome now) := by
  intro s chores running
  simp only [welcome_eq, withChores, withRecovery]
  split <;> simp [running]

theorem spares_loseSession : Spares loseSession := by
  intro s chores running
  simp only [loseSession_eq, withChores]
  simp [running, unanswered, isKept]

theorem spares_scheduleTick (now : Instant) (interval : Duration) : Spares (scheduleTick now interval) := by
  intro s chores running
  unfold scheduleTick withChores
  cases stage : s.consumer.recovery with
  | none => simp [running]
  | some r =>
    simp only
    cases now.after? interval with
    | none => simp [halt]
    | some nextTick => simp [withRecovery, running]

theorem replayHead_withChores (engine : Engine) (a : Accepted) (s : Session) (chores : List Chore) :
    (s.withChores chores).replayHead engine a = (s.replayHead engine a).withChores chores ∧
      (s.replayHead engine a).consumer.halted = s.consumer.halted := by
  simp only [replayHead, issue_eq, withChores]
  cases engine a.request.call with
  | ok number => exact ⟨rfl, rfl⟩
  | error cause =>
    cases transient : cause.isTransient with
    | true => simp [transient]
    | false => simp [transient, respond_eq]

theorem spares_drainOne (interval : Duration) : Spares (drainOne engine now interval) := by
  intro s chores running
  have same : (s.withChores chores).queue = s.queue := rfl
  unfold drainOne
  rw [same]
  cases s.queue.pop with
  | none =>
    simp only [withChores, withRecovery, writePhase]
    by_cases opened : s.phase.accepts .stable = true
    · simp [opened, running]
    · simp [opened, running]
  | some popped =>
    obtain ⟨a, queue⟩ := popped
    obtain ⟨sent, kept⟩ := replayHead_withChores engine a { s with queue } chores
    have sent' : ({ s.withChores chores with queue } : Session).replayHead engine a =
        (({ s with queue } : Session).replayHead engine a).withChores chores := sent
    simp only [sent']
    exact spares_scheduleTick now interval _ chores (kept.trans running)

theorem resubscribeNext_withChores (engine : Engine) (r : Recovery) (s : Session) (chores : List Chore) :
    (s.withChores chores).resubscribeNext engine r =
        (s.resubscribeNext engine r).withChores chores ∧
      (s.resubscribeNext engine r).consumer.halted = s.consumer.halted := by
  obtain ⟨stage, nextTick⟩ := r
  cases stage with
  | draining => exact ⟨rfl, rfl⟩
  | resubscribing unsent outstanding =>
    cases unsent with
    | nil => exact ⟨rfl, rfl⟩
    | cons record unsent =>
      simp only [resubscribeNext, resubscribe_eq, withChores]
      cases engine (.subscribe record.topic record.qos) with
      | ok number => exact ⟨rfl, rfl⟩
      | error cause => exact ⟨rfl, rfl⟩

theorem spares_enterDraining : Spares (enterDraining now) := by
  intro s chores running
  simp only [enterDraining_eq, withChores, withRecovery]
  split <;> simp [running]

theorem spares_settleTick (interval : Duration) : Spares (settleTick now interval) := by
  intro s chores running
  have scheduled := spares_scheduleTick now interval s chores running
  have recovery (t : Session) (left : List Chore) :
      (t.withChores left).consumer.recovery = t.consumer.recovery := rfl
  have ended (t : Session) (left : List Chore) :
      (t.withChores left).consumer.halted = t.consumer.halted := rfl
  simp only [settleTick, scheduled, recovery, ended]
  by_cases halted : (s.scheduleTick now interval).consumer.halted = true
  · simp only [halted, ↓reduceIte]
  · simp only [halted, Bool.false_eq_true, ↓reduceIte]
    by_cases settled : (s.scheduleTick now interval).consumer.recovery.any Recovery.isSettled = true
    · simp only [settled, ↓reduceIte]
      exact spares_enterDraining _ chores (Bool.eq_false_of_not_eq_true halted)
    · simp only [settled, Bool.false_eq_true, ↓reduceIte, halted]

theorem spares_resubscribeOne (interval : Duration) : Spares (resubscribeOne engine now interval) := by
  intro s chores running
  have same : (s.withChores chores).consumer.recovery = s.consumer.recovery := rfl
  unfold resubscribeOne
  rw [same]
  cases stage : s.consumer.recovery with
  | none => simp [withChores, running]
  | some r =>
    obtain ⟨sent, kept⟩ := resubscribeNext_withChores engine r s chores
    simp only [sent]
    exact spares_settleTick interval _ chores (kept.trans running)

theorem perform_withChores (engine : Engine) (now : Instant) (chore : Chore) (chores : List Chore)
    (s : Session) (running : s.consumer.halted = false) :
    perform engine now chore (s.withChores chores) =
      ((perform engine now chore s).1,
        (perform engine now chore s).2.withChores
          (if (perform engine now chore s).2.consumer.halted then [] else chores)) := by
  have spared {f : Session → Session} (spares : Spares f) :
      (([], f (s.withChores chores)) : List Chore × Session) =
        ([], (f s).withChores (if (f s).consumer.halted then [] else chores)) :=
    congrArg (Prod.mk []) (spares s chores running)
  cases chore with
  | answer id ack =>
    simp [perform, answer_eq, withChores, running]
  | welcome => exact spared spares_welcome
  | refuse =>
    simp only [perform, refuse, withChores, withRecovery, writePhase]
    by_cases connecting : s.phase = .connecting
    · simp [connecting, running]
    · simp [connecting, running]
  | leave code epoch =>
    simp only [perform, leave, goOffline_eq, withChores, withRecovery]
    cases s.phase <;> simp [running, farewell]
  | loseSession => exact spared spares_loseSession
  | acknowledge id ack => exact spared (spares_acknowledge id ack)
  | deliver m => exact spared (spares_deliver m)
  | checkDue =>
    have same : (s.withChores chores).isDue now = s.isDue now := rfl
    simp only [perform, same, running, Bool.false_eq_true, ↓reduceIte]
  | pace =>
    simp only [perform, pace, withChores, withRecovery]
    by_cases recovering : s.phase = .resubscribing ∨ s.phase = .draining
    · simp only [recovering, ↓reduceIte]
      cases stage : s.consumer.recovery with
      | none => simp [running, stage]
      | some r =>
        obtain ⟨kind, nextTick⟩ := r
        cases kind <;> simp [running, stage]
    · simp [recovering, running]
  | resubscribeOne interval => exact spared (spares_resubscribeOne interval)
  | drainOne interval => exact spared (spares_drainOne interval)
  | readEpoch code => simp [perform, withChores, running]
  | stopTimer => simp [perform, stopTimer, withChores, running]
  | stopIo => simp [perform, emit, withChores, running]
  | clearPending => simp [perform, withChores, running]
  | requestReconnect epoch => simp [perform, withChores, running]

theorem perform_weight (engine : Engine) (now : Instant) (chore : Chore) (s : Session) :
    Chore.totalWeight (perform engine now chore s).1 < chore.weight := by
  cases chore with
  | refuse =>
    simp only [perform, refuse]
    split <;> simp [Chore.totalWeight, Chore.weight]
  | leave code epoch =>
    simp only [perform, leave]
    split <;> simp [Chore.totalWeight, Chore.weight]
  | checkDue =>
    simp only [perform]
    split <;> simp [Chore.totalWeight, Chore.weight]
  | pace =>
    simp only [perform, pace]
    split
    · split <;> simp [Chore.totalWeight, Chore.weight]
    · simp [Chore.totalWeight, Chore.weight]
  | _ => simp [perform, Chore.totalWeight, Chore.weight]

/-! ### All chores -/

def worked (engine : Engine) (now : Instant) : Nat → Session → Session
  | 0, s => s
  | fuel + 1, s => worked engine now fuel (s.work engine now)

theorem work_withChores (chore : Chore) (rest : List Chore) (s : Session)
    (running : s.consumer.halted = false) :
    (s.withChores (chore :: rest)).work engine now =
      (perform engine now chore s).2.withChores
        (if (perform engine now chore s).2.consumer.halted then []
        else (perform engine now chore s).1 ++ rest) := by
  have working : (s.withChores (chore :: rest)).work engine now =
      if (perform engine now chore (s.withChores rest)).2.consumer.halted then
        (perform engine now chore (s.withChores rest)).2
      else (perform engine now chore (s.withChores rest)).2.withChores
        ((perform engine now chore (s.withChores rest)).1 ++
          (perform engine now chore (s.withChores rest)).2.consumer.chores) := rfl
  rw [working, perform_withChores engine now chore rest s running]
  by_cases halted : (perform engine now chore s).2.consumer.halted = true
  · simp [withChores, halted]
  · simp [withChores, halted]

theorem worked_idle (fuel : Nat) (s : Session) :
    worked engine now fuel (s.withChores []) = s.withChores [] := by
  induction fuel with
  | zero => rfl
  | succ fuel ih => exact ih

theorem worked_carryOut (fuel : Nat) (chores : List Chore) (s : Session)
    (running : s.consumer.halted = false) (enough : Chore.totalWeight chores ≤ fuel) :
    worked engine now fuel (s.withChores chores) =
      (carryOut engine now fuel chores s).withChores [] := by
  induction fuel generalizing chores s with
  | zero =>
    rw [Chore.totalWeight_eq_zero (Nat.le_zero.mp enough)]
    rfl
  | succ fuel ih =>
    cases chores with
    | nil => exact worked_idle _ s
    | cons chore rest =>
      have lighter := perform_weight engine now chore s
      simp only [Chore.totalWeight] at enough
      rw [worked, work_withChores chore rest s running, carryOut]
      by_cases halted : (perform engine now chore s).2.consumer.halted = true
      · simp only [halted, ↓reduceIte]
        exact worked_idle _ _
      · simp only [halted, Bool.false_eq_true, ↓reduceIte]
        refine ih _ _ (Bool.eq_false_of_not_eq_true halted) ?_
        rw [Chore.totalWeight_append]
        omega

theorem carryOut_enough (fuel : Nat) (chores : List Chore) (s : Session)
    (enough : Chore.totalWeight chores ≤ fuel) :
    carryOut engine now fuel chores s = carryOutAll engine now chores s := by
  suffices same : ∀ other, Chore.totalWeight chores ≤ other →
      carryOut engine now fuel chores s = carryOut engine now other chores s from
    same _ le_rfl
  induction fuel generalizing chores s with
  | zero =>
    intro other _
    rw [Chore.totalWeight_eq_zero (Nat.le_zero.mp enough)]
    cases other <;> rfl
  | succ fuel ih =>
    intro other enough'
    cases chores with
    | nil => cases other <;> rfl
    | cons chore rest =>
      have lighter := perform_weight engine now chore s
      have positive := chore.weight_pos
      simp only [Chore.totalWeight] at enough enough'
      obtain ⟨other, rfl⟩ : ∃ n, other = n + 1 := ⟨other - 1, by omega⟩
      have left : Chore.totalWeight ((perform engine now chore s).1 ++ rest) ≤ fuel ∧
          Chore.totalWeight ((perform engine now chore s).1 ++ rest) ≤ other := by
        rw [Chore.totalWeight_append]
        omega
      simp only [carryOut]
      rw [ih _ _ left.1 other left.2]

theorem carryOutAll_cons (chore : Chore) (rest : List Chore) (s : Session) :
    carryOutAll engine now (chore :: rest) s =
      if (perform engine now chore s).2.consumer.halted then (perform engine now chore s).2
      else carryOutAll engine now ((perform engine now chore s).1 ++ rest)
        (perform engine now chore s).2 := by
  have lighter := perform_weight engine now chore s
  have fuelled : carryOutAll engine now (chore :: rest) s =
      carryOut engine now (chore.weight - 1 + Chore.totalWeight rest + 1) (chore :: rest) s := by
    rw [carryOut_enough]
    simp only [Chore.totalWeight]
    omega
  rw [fuelled, carryOut]
  simp only
  rw [carryOut_enough]
  rw [Chore.totalWeight_append]
  omega

/-- Chores are carried out one list after the other, unless the consumer ends in between. -/
theorem carryOutAll_append (first second : List Chore) (s : Session)
    (running : s.consumer.halted = false) :
    carryOutAll engine now (first ++ second) s =
      if (carryOutAll engine now first s).consumer.halted then carryOutAll engine now first s
      else carryOutAll engine now second (carryOutAll engine now first s) := by
  generalize weight : Chore.totalWeight first = n
  induction n using Nat.strong_induction_on generalizing first s with
  | _ n ih =>
    cases first with
    | nil =>
      have same : carryOutAll engine now [] s = s := rfl
      rw [same, if_neg (ne_true_of_eq_false running)]
      rfl
    | cons chore rest =>
      have lighter := perform_weight engine now chore s
      rw [List.cons_append, carryOutAll_cons, carryOutAll_cons]
      by_cases halted : (perform engine now chore s).2.consumer.halted = true
      · simp only [halted, ↓reduceIte]
      · simp only [halted, Bool.false_eq_true, ↓reduceIte]
        rw [← List.append_assoc]
        refine ih _ ?_ _ _ (Bool.eq_false_of_not_eq_true halted) rfl
        rw [← weight, Chore.totalWeight_append, Chore.totalWeight]
        omega

/-! ### Turns -/

/-- What every step leaves behind: no chore is left, and events are still taken. -/
structure Rested (s : Session) : Prop where
  chores : s.consumer.chores = []
  events : s.events.stopped = false

theorem perform_chores (engine : Engine) (now : Instant) (chore : Chore) (s : Session)
    (running : s.consumer.halted = false) (none : s.consumer.chores = []) :
    (perform engine now chore s).2.consumer.chores = [] := by
  have same : s.withChores [] = s := by
    unfold withChores
    rw [← none]
  have done := perform_withChores engine now chore [] s running
  rw [same, ite_self] at done
  rw [congrArg Prod.snd done]
  rfl

theorem carryOut_chores (fuel : Nat) (chores : List Chore) (s : Session)
    (running : s.consumer.halted = false) (none : s.consumer.chores = []) :
    (carryOut engine now fuel chores s).consumer.chores = [] := by
  induction fuel generalizing chores s with
  | zero => exact none
  | succ fuel ih =>
    cases chores with
    | nil => exact none
    | cons chore rest =>
      have left := perform_chores engine now chore s running none
      rw [carryOut]
      by_cases halted : (perform engine now chore s).2.consumer.halted = true
      · simp only [halted, ↓reduceIte]
        exact left
      · simp only [halted, Bool.false_eq_true, ↓reduceIte]
        exact ih _ _ (Bool.eq_false_of_not_eq_true halted) left

theorem worked_rested (chores : List Chore) (s : Session) (running : s.consumer.halted = false)
    (none : s.consumer.chores = []) :
    worked engine now (Chore.totalWeight chores) (s.withChores chores) =
      carryOutAll engine now chores s := by
  have left : (carryOutAll engine now chores s).consumer.chores = [] :=
    carryOut_chores _ chores s running none
  rw [worked_carryOut _ chores s running le_rfl]
  change (carryOutAll engine now chores s).withChores [] = _
  unfold withChores
  rw [← left]

theorem turn_worked (s : Session) (rested : Rested s) :
    worked engine now (Chore.totalWeight (s.turn now).consumer.chores) (s.turn now) =
      (s.dispatch engine now).tick engine now := by
  obtain ⟨none, opened⟩ := rested
  cases halted : s.consumer.halted with
  | true =>
    have turned : s.turn now = s := by simp only [turn, halted, Bool.true_or, ↓reduceIte]
    have idle : s.dispatch engine now = s := by
      simp only [dispatch, nextEvent?, halted, ↓reduceIte]
    rw [turned, idle, none, tick, if_pos halted]
    rfl
  | false =>
    cases next : s.events.next with
    | mk what events =>
      cases what with
      | stopped =>
        unfold EventQueue.next at next
        rw [if_neg (ne_true_of_eq_false opened)] at next
        split at next <;> exact absurd (congrArg Prod.fst next) Next.noConfusion
      | tick =>
        have idle : s.dispatch engine now = s := by
          simp only [dispatch, nextEvent?, halted, Bool.false_eq_true, ↓reduceIte, next]
        by_cases due : s.isDue now = true
        · have turned : s.turn now = s.withChores [.checkDue] := by
            simp only [turn, halted, none, List.isEmpty_nil, Bool.not_true, Bool.or_self,
              Bool.false_eq_true, ↓reduceIte, next, due, withChores]
          rw [turned, idle, tick, if_neg (ne_true_of_eq_false halted)]
          exact worked_rested [.checkDue] s halted none
        · have turned : s.turn now = s := by
            simp only [turn, halted, none, List.isEmpty_nil, Bool.not_true, Bool.or_self,
              Bool.false_eq_true, ↓reduceIte, next, due]
          rw [turned, idle, none, tick_eq]
          simp only [due, Bool.and_false, Bool.false_eq_true, ↓reduceIte, Chore.totalWeight, worked]
      | event e =>
        have turned : s.turn now = { s with events }.withChores (e.chores ++ [Chore.checkDue]) := by
          simp only [turn, halted, none, List.isEmpty_nil, Bool.not_true, Bool.or_self,
            Bool.false_eq_true, ↓reduceIte, next, withChores]
        have handled : s.dispatch engine now = { s with events }.carryOutAll engine now e.chores := by
          simp only [dispatch, nextEvent?, halted, Bool.false_eq_true, ↓reduceIte, next]
        rw [turned, handled, tick]
        refine (worked_rested (e.chores ++ [.checkDue]) { s with events } halted none).trans ?_
        exact carryOutAll_append e.chores [.checkDue] { s with events } halted

theorem Rested.start (settings : Settings) : Rested (start settings) := ⟨rfl, rfl⟩

theorem Rested.after {s : Session} (rested : Rested s) (m : Move) : Rested (s.after m) := by
  have frame := framed m s
  refine ⟨?_, frame.stopped.trans rested.events⟩
  obtain ⟨step, engine⟩ := m
  have aside (other : ∀ now, step ≠ .dispatch now) (still : ∀ now, step ≠ .tick now) :
      (s.after ⟨step, engine⟩).consumer.chores = [] := by
    rw [frame.consumer other still]
    exact rested.chores
  cases step with
  | dispatch now =>
    change (s.dispatch engine now).consumer.chores = []
    unfold dispatch
    cases next : s.nextEvent? with
    | none => exact rested.chores
    | some e =>
      have running := running_of_nextEvent? next
      exact carryOut_chores _ _ _ running rested.chores
  | tick now =>
    change (s.tick engine now).consumer.chores = []
    unfold tick
    cases halted : s.consumer.halted with
    | true => exact rested.chores
    | false => exact carryOut_chores _ _ _ halted rested.chores
  | _ => exact aside (fun _ => Step.noConfusion) fun _ => Step.noConfusion

theorem Rested.run {s : Session} (rested : Rested s) (moves : List Move) : Rested (run moves s) := by
  induction moves generalizing s with
  | nil => exact rested
  | cons m rest ih => exact ih (rested.after m)

/-- After any run, a turn of the consumer whose chores have been done is two more moves. -/
theorem turn_isRun (settings : Settings) (moves : List Move) (engine : Engine) (now : Instant) :
    let t := (run moves (start settings)).turn now
    worked engine now (Chore.totalWeight t.consumer.chores) t =
      run (moves ++ [⟨.dispatch now, engine⟩, ⟨.tick now, engine⟩]) (start settings) := by
  intro t
  rw [run_append]
  exact turn_worked _ ((Rested.start settings).run moves)

end DurableMqtt.Session
