import DurableMqtt.Proofs.Run.Agenda

/-!
What one chore of the consumer does to the recovery of an accepted session.

A chore about an event leaves the recovery as it is, counts an acknowledgment in it, ends it, or
begins a phase of it. A paced step puts the next one off by its interval, and calls the engine once
if there is something to send.
-/

namespace DurableMqtt

def Recovery.isDraining (r : Recovery) : Bool := r.stage matches .draining

namespace Session

def drains (s : Session) : Bool := s.consumer.recovery.any Recovery.isDraining

variable {s t : Session} {engine : Engine} {now c : Instant} {chore : Chore}

/-! ### Chores about an event -/

inductive Steered (now : Instant) (chore : Chore) (s t : Session) : Prop where
  | kept (recovery : t.consumer.recovery = s.consumer.recovery)
  /-- Only the last of the subscriptions ends a recovery while the session is up. -/
  | ended (spent : chore.isQuiet = true → s.drains = false ∧ s.unsent = [])
      (recovery : t.consumer.recovery = none)
  /-- A subscription was acknowledged. -/
  | counted (unsent : List Subscription) (outstanding : Nat) (tick : Instant)
      (held : s.consumer.recovery = some ⟨.resubscribing unsent outstanding, tick⟩)
      (recovery : t.consumer.recovery = some ⟨.resubscribing unsent (outstanding - 1), tick⟩)
  /-- The last subscription was acknowledged. -/
  | settled (last : chore.isLast = true) (undrained : s.drains = false)
      (unsent : s.unsent = []) (running : t.consumer.halted = s.consumer.halted)
      (recovery : t.consumer.recovery = some ⟨.draining, now⟩)
  /-- A session was accepted. -/
  | welcomed (is : chore = .welcome) (connecting : s.phase = .connecting) (r : Recovery)
      (tick : r.nextTick = now) (due : r.due? = some now)
      (running : t.consumer.halted = s.consumer.halted) (recovery : t.consumer.recovery = some r)

theorem steered_welcome (s : Session) : Steered now .welcome s (s.welcome now) := by
  rw [welcome_eq]
  by_cases connecting : s.phase = .connecting
  · rw [if_pos connecting]
    cases records : s.registry.records with
    | nil => exact .welcomed rfl connecting ⟨.draining, now⟩ rfl rfl rfl rfl
    | cons record others =>
      exact .welcomed rfl connecting
        ⟨.resubscribing (record :: others) (record :: others).length, now⟩ rfl rfl rfl rfl
  · rw [if_neg connecting]
    exact .ended (fun quiet => absurd quiet Bool.false_ne_true) rfl

theorem enterDraining_withRecovery (recovery : Option Recovery) (s : Session) :
    (s.withRecovery recovery).enterDraining now = s.enterDraining now := by
  simp only [enterDraining_eq]
  rfl

theorem steered_settle (chore : Chore) (last : chore.isLast = true) (s : Session) :
    Steered now chore s (s.settleResubscribe now) := by
  unfold settleResubscribe
  cases held : s.consumer.recovery with
  | none => exact .kept rfl
  | some r =>
    obtain ⟨stage, tick⟩ := r
    cases stage with
    | draining => exact .kept (by simp [DurableMqtt.Session.settled, Recovery.isSettled, withRecovery, held])
    | resubscribing unsent outstanding =>
      by_cases done : (settled ⟨.resubscribing unsent outstanding, tick⟩).isSettled = true
      · have sent : unsent = [] := by
          cases unsent with
          | nil => rfl
          | cons record others => exact absurd done Bool.false_ne_true
        have spent : s.drains = false ∧ s.unsent = [] := by
          rw [drains, Session.unsent, held]
          exact ⟨rfl, sent⟩
        simp only [if_pos done, enterDraining_withRecovery]
        rw [enterDraining_eq]
        by_cases closed : s.phase = .userDisconnect
        · rw [if_pos closed]
          exact .ended (fun _ => spent) rfl
        · rw [if_neg closed]
          exact .settled last spent.1 spent.2 rfl rfl
      · simp only [if_neg done]
        exact .counted unsent outstanding tick held rfl

theorem steered_acknowledge (id : RequestId) (ack : Ack) (s : Session) :
    Steered now (.acknowledge id ack) s (s.acknowledge now id ack) := by
  unfold acknowledge
  split
  next => exact .kept rfl
  next entry pending taken =>
    simp only [respond_eq]
    by_cases restored : entry.resubscribe = true
    · simp only [if_pos restored]
      have counted : Steered now (.acknowledge id ack)
          { s with pending, registry := s.registry.acknowledged entry.effect ack }
          ({ s with pending, registry := s.registry.acknowledged entry.effect ack }.settleResubscribe
            now) := steered_settle _ rfl _
      cases counted with
      | kept recovery => exact .kept recovery
      | ended spent recovery => exact .ended spent recovery
      | counted unsent outstanding tick held recovery => exact .counted unsent outstanding tick held recovery
      | settled last undrained unsent running recovery =>
        exact .settled last undrained unsent running recovery
      | welcomed is connecting r tick due running recovery => exact absurd is Chore.noConfusion
    · simp only [if_neg restored]
      exact .kept rfl

theorem perform_steered (chore : Chore) (plain : chore.isPaced = false) (s : Session) :
    Steered now chore s (perform engine now chore s).2 := by
  cases chore with
  | answer id ack =>
    simp only [perform, answer_eq]
    exact .kept rfl
  | welcome => exact steered_welcome s
  | refuse =>
    simp only [perform, refuse]
    split <;> exact .ended (fun quiet => absurd quiet Bool.false_ne_true) rfl
  | readEpoch code => exact .kept rfl
  | leave code epoch =>
    simp only [perform, leave]
    split <;> exact .ended (fun quiet => absurd quiet Bool.false_ne_true) rfl
  | loseSession =>
    simp only [perform, loseSession_eq]
    exact .kept rfl
  | stopTimer => exact .kept rfl
  | stopIo => exact .kept rfl
  | clearPending => exact .kept rfl
  | requestReconnect epoch => exact .kept rfl
  | acknowledge id ack => exact steered_acknowledge id ack s
  | deliver m =>
    obtain ⟨consumer, effects, delivered, same, -⟩ := deliver_eq m s
    simp only [perform, delivered]
    exact .kept same
  | checkDue => exact absurd plain (by decide)
  | pace => exact absurd plain (by decide)
  | resubscribeOne interval => exact absurd plain Bool.noConfusion
  | drainOne interval => exact absurd plain Bool.noConfusion

/-! ### Paced steps -/

inductive Stepped (now : Instant) (interval : Duration) (s t : Session) : Prop where
  /-- The clock cannot name the next step. -/
  | halted (halted : t.consumer.halted = true)
  | ended (recovery : t.consumer.recovery = none)
  | begun (undrained : s.drains = false) (running : t.consumer.halted = false)
      (recovery : t.consumer.recovery = some ⟨.draining, now⟩)
  | putOff (r : Recovery) (tick : r.nextTick = now + interval.nanoseconds)
      (drains : r.isDraining = s.drains) (recovery : t.consumer.recovery = some r)

theorem rescheduled_cases {consumer : Consumer} {r : Recovery} (now : Instant)
    (interval : Duration) (held : consumer.recovery = some r) :
    (consumer.rescheduled now interval).halted = true ∨
      consumer.rescheduled now interval =
        { consumer with recovery := some { r with nextTick := now + interval.nanoseconds } } := by
  unfold Consumer.rescheduled Instant.after?
  rw [held]
  simp only
  by_cases named : now + interval.nanoseconds < Instant.limit
  · simp only [if_pos named]
    exact .inr trivial
  · simp only [if_neg named]
    exact .inl trivial

theorem drainOne_stepped (interval : Duration) {tick : Instant}
    (held : s.consumer.recovery = some ⟨.draining, tick⟩) :
    Stepped now interval s (s.drainOne engine now interval) := by
  cases items : s.queue.items with
  | nil =>
    simp only [drainOne, OfflineQueue.pop, items]
    exact .ended rfl
  | cons a rest =>
    have attempted : Attempted engine a rest (s.consumer.rescheduled now interval) s
        (s.drainOne engine now interval) := drainOne_attempted interval s items
    have consumer : (s.drainOne engine now interval).consumer =
        s.consumer.rescheduled now interval := by
      generalize s.drainOne engine now interval = t at attempted ⊢
      cases attempted <;> rfl
    rcases rescheduled_cases now interval held with halted | named
    · exact .halted (by rw [consumer]; exact halted)
    · refine .putOff ⟨.draining, now + interval.nanoseconds⟩ rfl ?_ ?_
      · rw [drains, held]
        rfl
      · rw [consumer, named]

theorem resubscribeOne_stepped (interval : Duration) {unsent : List Subscription}
    {outstanding : Nat} {tick : Instant}
    (held : s.consumer.recovery = some ⟨.resubscribing unsent outstanding, tick⟩) :
    Stepped now interval s (s.resubscribeOne engine now interval) := by
  have undrained : s.drains = false := by rw [drains, held]; rfl
  obtain ⟨rest, left, -, sent⟩ := IsLed.resubscribeNext_held engine held
  unfold resubscribeOne
  simp only [held, scheduleTick_rescheduled]
  generalize s.resubscribeNext engine ⟨.resubscribing unsent outstanding, tick⟩ = t at sent ⊢
  rcases rescheduled_cases now interval sent with halted | named
  · rw [if_pos halted]
    exact .halted halted
  · rw [named]
    by_cases ended : t.consumer.halted = true
    · rw [if_pos ended]
      exact .halted ended
    · rw [if_neg ended]
      split
      · rw [enterDraining_eq]
        split
        · exact .ended rfl
        · exact .begun undrained (Bool.eq_false_of_not_eq_true ended) rfl
      · exact .putOff ⟨.resubscribing rest left, now + interval.nanoseconds⟩ rfl undrained.symm rfl

theorem sends_of_interval {interval : Duration} (read : chore.interval? = some interval) :
    chore = .resubscribeOne interval ∨ chore = .drainOne interval := by
  cases chore with
  | resubscribeOne _ =>
    cases read
    exact .inl rfl
  | drainOne _ =>
    cases read
    exact .inr rfl
  | _ => cases read

theorem isStep_of_interval {interval : Duration} (read : chore.interval? = some interval) :
    chore.isStep = true := by
  rcases sends_of_interval read with rfl | rfl <;> rfl

theorem perform_stepped {interval : Duration} (read : chore.interval? = some interval)
    (ready : Ready c s.consumer.recovery chore) :
    Stepped now interval s (perform engine now chore s).2 := by
  obtain ⟨⟨stage, tick⟩, held, -, -, suits⟩ := ready
  rcases sends_of_interval read with rfl | rfl
  · cases stage with
    | resubscribing unsent outstanding => exact resubscribeOne_stepped interval held
    | draining => exact absurd suits Bool.false_ne_true
  · cases stage with
    | resubscribing unsent outstanding => exact absurd suits Bool.false_ne_true
    | draining => exact drainOne_stepped interval held

theorem perform_looks (engine : Engine) (now : Instant) (s : Session)
    (paced : chore.isPaced = true) (unread : chore.interval? = none) :
    (perform engine now chore s).2.consumer.halted = s.consumer.halted ∧
      ((perform engine now chore s).2.consumer.recovery = s.consumer.recovery ∨
        (perform engine now chore s).2.consumer.recovery = none) := by
  have performed := perform_paces engine now chore paced s
  generalize perform engine now chore s = result at performed ⊢
  cases performed with
  | ends unpaced => exact ⟨rfl, .inr rfl⟩
  | resubscribed interval => cases unread
  | drained interval => cases unread
  | _ => exact ⟨rfl, .inl rfl⟩

theorem unpaced_of_drained (engine : Engine) (now : Instant) (interval : Duration)
    (empty : s.queue.items = []) (paced : s.phase.isPaced = true) :
    (s.drainOne engine now interval).phase.isPaced = false := by
  have opened : s.phase.accepts .stable = true := by
    cases phase : s.phase <;> rw [phase] at paced <;> first | rfl | cases paced
  have phase : (s.drainOne engine now interval).phase = .stable := by
    simp only [drainOne, OfflineQueue.pop, empty, opened, writePhase, Phase.write]
    rfl
  rw [phase]
  rfl

/-! ### Calls -/

def callCount (s t : Session) : Nat := (since s t).countP Effect.isCall

theorem callCount_of_append {effects : List Effect} (appended : t.effects = s.effects ++ effects) :
    callCount s t = effects.countP Effect.isCall := by
  rw [callCount, since_of_append appended]

theorem countP_of_uncalled {effects : List Effect} (uncalled : Uncalled effects) :
    effects.countP Effect.isCall = 0 :=
  List.countP_eq_zero.mpr fun e member called =>
    absurd (called.symm.trans (uncalled e member)) Bool.noConfusion

theorem callCount_self (s : Session) : callCount s s = 0 := by
  rw [callCount, since_self]
  rfl

theorem drainOne_callCount (interval : Duration) (s : Session) :
    callCount s (s.drainOne engine now interval) = if s.queue.items.isEmpty then 0 else 1 := by
  cases items : s.queue.items with
  | nil =>
    have same : (s.drainOne engine now interval).effects = s.effects ++ [] := by
      simp only [drainOne, OfflineQueue.pop, items, List.append_nil]
      split <;> rfl
    exact callCount_of_append same
  | cons a rest =>
    have attempted : Attempted engine a rest (s.consumer.rescheduled now interval) s
        (s.drainOne engine now interval) := drainOne_attempted interval s items
    generalize s.drainOne engine now interval = t at attempted ⊢
    cases attempted with
    | accepted number taken =>
      rw [callCount_of_append rfl]
      rfl
    | putOff cause refused transient =>
      rw [callCount_of_append rfl]
      rfl
    | discarded cause refused permanent =>
      rw [callCount_of_append rfl, List.countP_append, countP_of_uncalled (told_uncalled _ _ _)]
      rfl

theorem resubscribeNext_callCount (engine : Engine) {r : Recovery}
    (held : s.consumer.recovery = some r) :
    callCount s (s.resubscribeNext engine r) = if s.unsent.isEmpty then 0 else 1 := by
  rw [Session.unsent, held]
  obtain ⟨stage, tick⟩ := r
  cases stage with
  | draining => exact callCount_self s
  | resubscribing unsent outstanding =>
    cases unsent with
    | nil => exact callCount_self s
    | cons record rest =>
      simp only [resubscribeNext, resubscribe_eq]
      cases engine (.subscribe record.topic record.qos) with
      | ok number =>
        rw [callCount_of_append rfl]
        rfl
      | error cause =>
        rw [callCount_of_append rfl]
        rfl

theorem resubscribeOne_callCount (interval : Duration) (s : Session) :
    callCount s (s.resubscribeOne engine now interval) = if s.unsent.isEmpty then 0 else 1 := by
  unfold resubscribeOne
  cases held : s.consumer.recovery with
  | none =>
    rw [Session.unsent, held]
    exact callCount_self s
  | some r =>
    rw [← resubscribeNext_callCount engine held]
    simp only [scheduleTick_rescheduled, enterDraining_eq]
    split
    · rfl
    · split
      · split <;> rfl
      · rfl

end Session

end DurableMqtt
