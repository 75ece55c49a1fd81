import DurableMqtt.Proofs.Run.Handover
import DurableMqtt.Proofs.Run.Restoration

/-!
How the subscriptions of an accepted session are sent again.

The recovery counts those that are not settled yet, and it does so in two places: a paced step takes
off a subscription that cannot be sent, and an acknowledgment one that was. Both places are put here
as equations on the recovery, with what they leave of the rest of the session.
-/

namespace DurableMqtt.Session

variable {s t : Session} {m : Move} {engine : Engine} {now : Instant} {effects : List Effect}

/-! ### The other sides -/

structure Still (s t : Session) : Prop where
  phase : t.phase = s.phase
  consumer : t.consumer = s.consumer
  pending : t.pending = s.pending
  effects : t.effects = s.effects

theorem still_aside (undisturbed : Undisturbed m s) (others : m.isConsumers = false)
    (parks : s.phase.isRecovering = true ∨ ∀ request caller, m.step ≠ .request request caller) :
    Still s (s.after m) := by
  have consumer := after_consumer (s := s) m others
  obtain ⟨step, engine⟩ := m
  cases step with
  | connect caller => exact absurd undisturbed.unasked.1 Bool.false_ne_true.symm
  | disconnect caller => exact absurd undisturbed.unasked.1 Bool.false_ne_true.symm
  | request request caller =>
    have recovering := parks.resolve_right fun none => none request caller rfl
    have routed : Routed engine _ _ s (s.route engine request caller) :=
      route_routed request caller s
    change Still s (s.route engine request caller).2
    generalize s.route engine request caller = result at routed ⊢
    cases routed with
    | sent number taken ready => exact absurd (ready.symm.trans recovering) Bool.false_ne_true
    | refused error cause refused ready =>
      exact absurd (ready.symm.trans recovering) Bool.false_ne_true
    | _ => exact ⟨rfl, rfl, rfl, rfl⟩
  | configureQueue capacity policy => exact ⟨rfl, consumer, rfl, rfl⟩
  | adjust adjustment =>
    obtain ⟨settings, hooks, backoff, adjusted⟩ := adjust_eq adjustment s
    have after : s.after ⟨.adjust adjustment, engine⟩ = { s with settings, hooks, backoff } :=
      adjusted
    rw [after]
    exact ⟨rfl, rfl, rfl, rfl⟩
  | report report => exact ⟨rfl, rfl, rfl, rfl⟩
  | supervise now =>
    have unasked := undisturbed.unasked.2
    have after : s.after ⟨.supervise now, engine⟩ = s.supervise engine now := rfl
    have supervised : Supervised engine s (s.supervise engine now) := supervise_supervised s
    rw [← after] at supervised
    generalize at_ : s.after ⟨.supervise now, engine⟩ = t at supervised ⊢
    cases supervised with
    | connected slept number attempting opened taken =>
      rw [asks_of_append (congrArg effects at_)] at unasked
      exact absurd unasked.symm Bool.false_ne_true
    | refused slept cause attempting opened answer =>
      rw [asks_of_append (congrArg effects at_)] at unasked
      exact absurd unasked.symm Bool.false_ne_true
    | _ => exact ⟨rfl, rfl, rfl, rfl⟩
  | expire timer => exact ⟨rfl, rfl, rfl, rfl⟩
  | dispatch now => exact absurd others Bool.false_ne_true.symm
  | tick now => exact absurd others Bool.false_ne_true.symm

/-! ### Paced steps -/

theorem isSettled_iff {unsent : List Subscription} {outstanding : Nat} {nextTick : Instant} :
    Recovery.isSettled ⟨.resubscribing unsent outstanding, nextTick⟩ = true ↔
      unsent = [] ∧ outstanding = 0 := by
  cases unsent <;> cases outstanding <;> simp [Recovery.isSettled]

theorem settleTick_unsettled (now : Instant) (interval : Duration) {recovery : Recovery}
    (held : s.consumer.recovery = some recovery) (unsettled : recovery.isSettled = false) :
    ∃ nextTick,
      (s.settleTick now interval).consumer.recovery = some { recovery with nextTick } ∧
      (s.settleTick now interval).phase = s.phase ∧
      (s.settleTick now interval).pending = s.pending ∧
      (s.settleTick now interval).effects = s.effects := by
  unfold settleTick scheduleTick
  rw [held]
  simp only
  cases now.after? interval with
  | none => exact ⟨recovery.nextTick, held, rfl, rfl, rfl⟩
  | some nextTick =>
    have same : Recovery.isSettled { recovery with nextTick } = false := unsettled
    simp only [withRecovery, Option.any_some, same]
    split
    · exact ⟨nextTick, rfl, rfl, rfl, rfl⟩
    · exact ⟨nextTick, rfl, rfl, rfl, rfl⟩

theorem settleTick_settled {interval : Duration} {recovery : Recovery}
    (held : s.consumer.recovery = some recovery) (settled : recovery.isSettled = true)
    (running : s.consumer.halted = false) (phase : s.phase = .resubscribing) :
    s.settleTick now interval =
      if (now.after? interval).isNone then s.halt
      else { s with
        phase := .draining
        consumer := { s.consumer with recovery := some ⟨.draining, now⟩ } } := by
  unfold settleTick scheduleTick
  rw [held]
  simp only
  cases now.after? interval with
  | none => rfl
  | some nextTick =>
    have same : Recovery.isSettled { recovery with nextTick } = true := settled
    have opened : s.phase ≠ .userDisconnect := by rw [phase]; exact Phase.noConfusion
    simp only [withRecovery, running, Bool.false_eq_true, ↓reduceIte, Option.any_some, same,
      Option.isNone_some, enterDraining_eq, if_neg opened]

theorem resubscribeOne_taken (now : Instant) (interval : Duration) {record : Subscription}
    {rest : List Subscription} {outstanding : Nat} {nextTick : Instant} {number : UInt32}
    (held : s.consumer.recovery = some ⟨.resubscribing (record :: rest) outstanding, nextTick⟩)
    (positive : outstanding ≠ 0)
    (taken : engine (.subscribe record.topic record.qos) = .ok number) :
    let t := s.resubscribeOne engine now interval
    (∃ later, t.consumer.recovery = some ⟨.resubscribing rest outstanding, later⟩) ∧
      t.phase = s.phase ∧ t.pending = s.pending.insert (.packet number) (restoring record) ∧
      t.effects =
        s.effects ++ [.called (.subscribe record.topic record.qos) (.ok number) none] := by
  let sent : Session := { s with
    pending := s.pending.insert (.packet number) (restoring record)
    effects := s.effects ++ [.called (.subscribe record.topic record.qos) (.ok number) none]
    consumer := { s.consumer with
      recovery := some ⟨.resubscribing rest outstanding, nextTick⟩ } }
  have step : s.resubscribeOne engine now interval = sent.settleTick now interval := by
    unfold resubscribeOne
    rw [held]
    simp only [resubscribeNext, resubscribe_eq, taken]
    rfl
  have unsettled : Recovery.isSettled ⟨.resubscribing rest outstanding, nextTick⟩ = false :=
    Bool.eq_false_of_not_eq_true fun settled => positive (isSettled_iff.mp settled).2
  obtain ⟨later, recovery, phase, pending, effects⟩ := settleTick_unsettled now
    interval (s := sent) rfl unsettled
  rw [step]
  exact ⟨⟨later, recovery⟩, phase, pending, effects⟩

/-- A subscription that the engine refuses is not waited for. If it was the last one, the session
goes on, provided that the clock can name the time of the next step. -/
theorem resubscribeOne_refused (now : Instant) (interval : Duration) {record : Subscription}
    {rest : List Subscription} {outstanding : Nat} {nextTick : Instant} {cause : EngineError}
    (held : s.consumer.recovery = some ⟨.resubscribing (record :: rest) outstanding, nextTick⟩)
    (running : s.consumer.halted = false) (phase : s.phase = .resubscribing)
    (refused : engine (.subscribe record.topic record.qos) = .error cause) :
    let t := s.resubscribeOne engine now interval
    t.pending = s.pending ∧
      t.effects =
        s.effects ++ [.called (.subscribe record.topic record.qos) (.error cause) none] ∧
      if rest = [] ∧ outstanding - 1 = 0 then
        if (Instant.after? now interval).isNone then
          t.phase = .resubscribing ∧ t.consumer.halted = true
        else t.phase = .draining ∧ t.consumer.recovery = some ⟨.draining, now⟩
      else t.phase = .resubscribing ∧ ∃ later,
        t.consumer.recovery = some ⟨.resubscribing rest (outstanding - 1), later⟩ := by
  let sent : Session := { s with
    effects := s.effects ++ [.called (.subscribe record.topic record.qos) (.error cause) none]
    consumer := { s.consumer with
      recovery := some ⟨.resubscribing rest (outstanding - 1), nextTick⟩ } }
  have step : s.resubscribeOne engine now interval = sent.settleTick now interval := by
    unfold resubscribeOne
    rw [held]
    simp only [resubscribeNext, resubscribe_eq, refused]
    rfl
  simp only [step]
  by_cases last : rest = [] ∧ outstanding - 1 = 0
  · rw [settleTick_settled (s := sent) rfl (isSettled_iff.mpr last) running phase, if_pos last]
    split
    · exact ⟨rfl, rfl, phase, rfl⟩
    · exact ⟨rfl, rfl, rfl, rfl⟩
  · have unsettled : Recovery.isSettled ⟨.resubscribing rest (outstanding - 1), nextTick⟩ = false :=
      Bool.eq_false_of_not_eq_true fun settled => last (isSettled_iff.mp settled)
    obtain ⟨later, recovery, same, pending, effects⟩ := settleTick_unsettled now
      interval (s := sent) rfl unsettled
    rw [if_neg last]
    exact ⟨pending, effects, same.trans phase, later, recovery⟩

/-! ### Events -/

theorem settleResubscribe_held {unsent : List Subscription} {outstanding : Nat} {nextTick : Instant}
    (held : s.consumer.recovery = some ⟨.resubscribing unsent outstanding, nextTick⟩)
    (phase : s.phase = .resubscribing) :
    s.settleResubscribe now =
      if unsent = [] ∧ outstanding - 1 = 0 then
        { s with
          phase := .draining
          consumer := { s.consumer with recovery := some ⟨.draining, now⟩ } }
      else s.withRecovery (some ⟨.resubscribing unsent (outstanding - 1), nextTick⟩) := by
  have opened : s.phase ≠ .userDisconnect := by rw [phase]; exact Phase.noConfusion
  unfold settleResubscribe
  rw [held]
  simp only [settled, isSettled_iff, enterDraining_eq, withRecovery, if_neg opened]

/-- What a dispatch comes to that brings neither the answer to a CONNECT nor the end of a
connection. -/
inductive Calm (now : Instant) (s : Session) (acknowledged : Option RequestId) :
    Session → Prop where
  | idle (none : acknowledged = none) : Calm now s acknowledged s
  | acknowledges (id : RequestId) (ack : Ack) (given : acknowledged = some id) :
      Calm now s acknowledged
        (Session.acknowledge now id ack { s with events := s.events.next.2 })
  | delivers (consumer : Consumer) (effects : List Effect) (none : acknowledged = none)
      (same : consumer.recovery = s.consumer.recovery) (hooks : ∀ x ∈ effects, x.isHook) :
      Calm now s acknowledged
        { s with events := s.events.next.2, consumer, effects := s.effects ++ effects }

theorem dispatch_calm (undisturbed : Undisturbed ⟨.dispatch now, engine⟩ s) :
    Calm now s (acknowledged? ⟨.dispatch now, engine⟩ s) (s.dispatch engine now) := by
  cases next : s.nextEvent? with
  | none =>
    have same : s.dispatch engine now = s := by simp only [Session.dispatch, next]
    have seen : dispatched? ⟨.dispatch now, engine⟩ s = none := next
    rw [same]
    exact .idle (by rw [acknowledged?, seen]; rfl)
  | some e =>
    have seen : dispatched? ⟨.dispatch now, engine⟩ s = some e := next
    have given : acknowledged? ⟨.dispatch now, engine⟩ s = e.ack?.map fun _ => e.id := by
      rw [acknowledged?, seen]
      rfl
    rw [dispatch_eq s next, given, handle, Event.ack?]
    cases kind : e.kind with
    | connack code =>
      have none := undisturbed.unanswered.1
      simp [connack?, seen, kind] at none
    | disconnect code =>
      have open' := undisturbed.unanswered.2
      rw [hangsUp, seen] at open'
      simp [Event.isDisconnect, kind] at open'
    | puback => exact .acknowledges e.id .published rfl
    | suback answer => exact .acknowledges e.id (.subscribed answer) rfl
    | unsuback => exact .acknowledges e.id .unsubscribed rfl
    | message m =>
      obtain ⟨consumer, effects, delivered, same, hooks⟩ :=
        deliver_eq m { s with events := s.events.next.2 }
      simp only [delivered]
      exact .delivers consumer effects rfl same hooks

/-! ### Steps that send no subscription -/

def Unrestoring (effects : List Effect) : Prop := effects.filterMap Effect.restoration? = []

theorem Unrestoring.of_uncalled {effects : List Effect} (uncalled : Uncalled effects) :
    Unrestoring effects := by
  refine List.filterMap_eq_nil_iff.mpr fun e member => ?_
  cases e with
  | called call answer ticket => exact absurd (uncalled _ member).symm Bool.false_ne_true
  | _ => rfl

theorem Unrestoring.request {effects : List Effect} (quiet : Uncalled effects) (call : EngineCall)
    (answer : Except EngineError UInt32) (ticket : Nat) :
    Unrestoring (.called call answer (some ticket) :: effects) := by
  have other : (Effect.called call answer (some ticket)).restoration? = none := by
    cases call <;> rfl
  exact (List.filterMap_cons_none other).trans (Unrestoring.of_uncalled quiet)

def Rests (s t : Session) : Prop :=
  ∃ effects, t.effects = s.effects ++ effects ∧ Unrestoring effects

theorem Rests.of_same (same : t.effects = s.effects) : Rests s t :=
  ⟨[], same.trans (List.append_nil _).symm, rfl⟩

theorem Rests.unrestoring (rests : Rests s t) : Unrestoring (since s t) := by
  obtain ⟨effects, appended, unrestoring⟩ := rests
  rw [since_of_append appended]
  exact unrestoring

end DurableMqtt.Session
