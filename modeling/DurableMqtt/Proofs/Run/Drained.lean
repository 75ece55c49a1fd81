import DurableMqtt.Proofs.Run.Sending

/-!
Stable sessions have nothing parked. A paced step makes a session stable only when it finds the
queue empty, and requests are parked in other phases only.
-/

namespace DurableMqtt.Session

variable {s t : Session} {engine : Engine} {now : Instant}

/-- Nothing is parked once a session is stable. -/
def Drained (s : Session) : Prop := s.phase = .stable → s.queue.items = []

theorem Drained.same (drained : Drained s) (phase : t.phase = s.phase) (queue : t.queue = s.queue) :
    Drained t := by
  unfold Drained
  rw [phase, queue]
  exact drained

theorem Drained.aside (aside : t.phase ≠ .stable) : Drained t := fun stable => absurd stable aside

theorem scheduleTick_phase (interval : Duration) : (s.scheduleTick now interval).phase = s.phase := by
  obtain ⟨consumer, scheduled, _⟩ := scheduleTick_eq now interval s
  rw [scheduled]

theorem replayHead_phase (a : Accepted) : (s.replayHead engine a).phase = s.phase := by
  unfold replayHead
  rw [issue_eq]
  cases engine a.request.call with
  | ok number => rfl
  | error cause =>
    cases transient : cause.isTransient with
    | true => simp [transient]
    | false => simp [transient, respond_eq]

theorem resubscribeNext_phase (r : Recovery) : (s.resubscribeNext engine r).phase = s.phase := by
  unfold resubscribeNext
  split
  next record unsent outstanding stage =>
    simp only [resubscribe_eq, withRecovery]
    cases engine (.subscribe record.topic record.qos) <;> rfl
  next => rfl

theorem settleTick_phase (now : Instant) (interval : Duration) (s : Session) :
    (s.settleTick now interval).phase = s.phase ∨
      (s.settleTick now interval).phase = .draining := by
  unfold settleTick
  simp only
  split
  · exact .inl (scheduleTick_phase interval)
  · split
    · rw [enterDraining_eq]
      split
      · exact .inl (scheduleTick_phase interval)
      · exact .inr rfl
    · exact .inl (scheduleTick_phase interval)

theorem drained_drainOne (interval : Duration) (unstable : s.phase ≠ .stable) :
    Drained (s.drainOne engine now interval) := by
  unfold drainOne OfflineQueue.pop
  cases items : s.queue.items with
  | nil =>
    intro _
    simp only
    split <;> exact items
  | cons a rest =>
    refine .aside ?_
    simp only
    rw [scheduleTick_phase, replayHead_phase]
    exact unstable

theorem drained_resubscribeOne (interval : Duration) (unstable : s.phase ≠ .stable) :
    Drained (s.resubscribeOne engine now interval) := by
  refine .aside ?_
  unfold resubscribeOne
  cases s.consumer.recovery with
  | none => exact unstable
  | some r =>
    change ((s.resubscribeNext engine r).settleTick now interval).phase ≠ .stable
    rcases settleTick_phase now interval (s.resubscribeNext engine r) with same | draining
    · rw [same, resubscribeNext_phase]
      exact unstable
    · rw [draining]
      exact Phase.noConfusion

theorem drained_tick (drained : Drained s) : Drained (s.tick engine now) := by
  rw [tick_eq]
  split
  · unfold paceNow
    split
    next recovering =>
      have unstable : s.phase ≠ .stable := by
        rcases recovering with phase | phase <;> rw [phase] <;> exact Phase.noConfusion
      split
      · exact drained_drainOne _ unstable
      · exact drained_resubscribeOne _ unstable
      · exact drained
    next => exact drained.same rfl rfl
  · exact drained

theorem drained_dispatch (drained : Drained s) : Drained (s.dispatch engine now) := by
  have dispatched : Dispatched now s (s.dispatch engine now) := dispatch_dispatched s
  generalize s.dispatch engine now = t at dispatched ⊢
  cases dispatched with
  | idle none => exact drained
  | handled e next t handled =>
    cases handled with
    | welcomed kind connecting =>
      refine .aside ?_
      simp only
      split <;> exact Phase.noConfusion
    | turnedAway code kind refused connecting => exact .aside Phase.noConfusion
    | hungUp code kind t hungUp =>
      cases hungUp with
      | lost established => exact .aside Phase.noConfusion
      | _ => exact drained.same rfl rfl
    | acknowledged ack of entry found consumer kept =>
      intro stable
      refine drained ?_
      simp only at stable
      split at stable
      · revert stable
        cases s.phase <;> decide
      · exact stable
    | _ => exact drained.same rfl rfl

theorem drained_request (request : Request) (caller : Caller) (drained : Drained s) :
    Drained (s.route engine request caller).2 := by
  have routed : Routed engine _ _ s (s.route engine request caller) := route_routed request caller s
  have aside (recovering : s.phase.isRecovering = true) : s.phase ≠ .stable := by
    intro stable
    rw [stable] at recovering
    exact absurd recovering Bool.false_ne_true
  generalize s.route engine request caller = result at routed ⊢
  cases routed with
  | parked recovering => exact .aside (aside recovering)
  | evicting cause limit capacity full policy recovering => exact .aside (aside recovering)
  | _ => exact drained.same rfl rfl

theorem Drained.after (drained : Drained s) (m : Move) : Drained (s.after m) := by
  obtain ⟨step, engine⟩ := m
  cases step with
  | connect caller =>
    change Drained (s.connect engine caller).2
    rw [connect_eq]
    split
    · split <;> exact .aside Phase.noConfusion
    · exact drained
  | disconnect caller =>
    change Drained (s.disconnect engine caller).2
    rw [disconnect_eq]
    refine .aside ?_
    simp only
    split
    · split <;> exact Phase.noConfusion
    · exact Phase.noConfusion
  | request request caller => exact drained_request request caller drained
  | dispatch now => exact drained_dispatch drained
  | tick now => exact drained_tick drained
  | supervise now =>
    have supervised : Supervised engine s (s.supervise engine now) := supervise_supervised s
    change Drained (s.supervise engine now)
    generalize s.supervise engine now = t at supervised ⊢
    cases supervised with
    | connected slept number attempting opened taken => exact .aside Phase.noConfusion
    | refused slept cause attempting opened answer => exact .aside Phase.noConfusion
    | _ => exact drained.same rfl rfl
  | adjust adjustment =>
    obtain ⟨settings, hooks, backoff, adjusted⟩ := adjust_eq adjustment s
    change Drained (s.adjust adjustment)
    rw [adjusted]
    exact drained.same rfl rfl
  | configureQueue capacity policy =>
    intro stable
    have none := drained stable
    refine List.sublist_nil.mp ?_
    rw [← none]
    exact OfflineQueue.trim_sublist _ policy s.queue.items
  | report report => exact drained.same rfl rfl
  | expire timer => exact drained.same rfl rfl

end DurableMqtt.Session
