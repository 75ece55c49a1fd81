import DurableMqtt.Proofs.Run.Sending

/-!
What every step leaves alone, whatever it is about.

The sides of a session share little: a step of one of them neither takes the others down nor
touches the events that wait for the consumer, apart from adding to them, and nothing that was
done to the outside is undone.
-/

namespace DurableMqtt

/-- Whether a move has the consumer handle an event, or take a paced step, to the end. -/
def Move.isConsumers (m : Move) : Bool := m.step matches .dispatch _ | .tick _

namespace Session

variable {engine : Engine} {now : Instant}

/-! ### Events -/

theorem mem_push {q : EventQueue} {e x : Event} (member : x ∈ (q.push e).events) :
    x ∈ q.events ∨ x = e := by
  unfold EventQueue.push at member
  split at member
  · exact .inl member
  · exact (List.mem_append.mp member).imp_right List.mem_singleton.mp

theorem push_stopped (q : EventQueue) (e : Event) : (q.push e).stopped = q.stopped := by
  unfold EventQueue.push
  split <;> rfl

theorem mem_next {q : EventQueue} {x : Event} (member : x ∈ q.next.2.events) : x ∈ q.events := by
  unfold EventQueue.next at member
  split at member
  · exact member
  · split at member
    · exact member
    next e rest events =>
      rw [events]
      exact List.mem_cons_of_mem e member

theorem next_stopped (q : EventQueue) : q.next.2.stopped = q.stopped := by
  unfold EventQueue.next
  split
  · rfl
  · split <;> rfl

/-! ### Steps -/

/-- What a step leaves of the sides that it does not serve. -/
structure Framed (m : Move) (s t : Session) : Prop where
  /-- What is done is never undone. -/
  effects : s.effects <+: t.effects
  interrupted : t.interrupted = s.interrupted
  supervisor : t.supervisor = .stopped → s.interrupted = true ∨ s.supervisor = .stopped
  stopped : t.events.stopped = s.events.stopped
  events : ∀ e ∈ t.events.events, e ∈ s.events.events ∨ ∃ report : Report, e = report.event
  consumer : (∀ now, m.step ≠ .dispatch now) → (∀ now, m.step ≠ .tick now) →
    t.consumer = s.consumer

section

variable {m : Move} {s t : Session}

theorem Framed.of_same (effects : s.effects <+: t.effects) (interrupted : t.interrupted = s.interrupted)
    (supervisor : t.supervisor = s.supervisor) (events : t.events = s.events)
    (consumer : t.consumer = s.consumer) : Framed m s t where
  effects := effects
  interrupted := interrupted
  supervisor := fun stopped => .inr (supervisor.symm.trans stopped)
  stopped := congrArg EventQueue.stopped events
  events := by
    rw [events]
    exact fun e member => .inl member
  consumer := fun _ _ => consumer

theorem Framed.of_push (report : Report) (effects : s.effects <+: t.effects)
    (interrupted : t.interrupted = s.interrupted) (supervisor : t.supervisor = s.supervisor)
    (events : t.events = s.events.push report.event) (consumer : t.consumer = s.consumer) :
    Framed m s t where
  effects := effects
  interrupted := interrupted
  supervisor := fun stopped => .inr (supervisor.symm.trans stopped)
  stopped := by rw [events, push_stopped]
  events := by
    rw [events]
    exact fun e member => (mem_push member).imp_right fun same => ⟨report, same⟩
  consumer := fun _ _ => consumer

theorem framed_disconnect (caller : Caller) :
    Framed ⟨.disconnect caller, engine⟩ s (s.disconnect engine caller).2 := by
  rw [disconnect_eq]
  simp only
  split
  · split
    · exact .of_same (List.prefix_append _ _) rfl rfl rfl rfl
    · exact .of_push (.disconnect 0) (List.prefix_append _ _) rfl rfl rfl rfl
  · exact .of_push (.disconnect 0) (List.prefix_refl _) rfl rfl rfl rfl

theorem Handled.sides {e : Event} (handled : Handled now e s t) :
    t.interrupted = s.interrupted ∧ t.supervisor = s.supervisor ∧ t.events = s.events := by
  cases handled with
  | hungUp code kind t hungUp => cases hungUp <;> exact ⟨rfl, rfl, rfl⟩
  | _ => exact ⟨rfl, rfl, rfl⟩

theorem framed_dispatch : Framed ⟨.dispatch now, engine⟩ s (s.dispatch engine now) := by
  have dispatched : Dispatched now s (s.dispatch engine now) := dispatch_dispatched s
  generalize s.dispatch engine now = t at dispatched ⊢
  cases dispatched with
  | idle none => exact .of_same (List.prefix_refl _) rfl rfl rfl rfl
  | handled e next t handled =>
    obtain ⟨effects, appended, _⟩ := handled.uncalled
    obtain ⟨interrupted, supervisor, events⟩ := handled.sides
    refine ⟨⟨effects, appended.symm⟩, interrupted, fun stopped => ?_, ?_, ?_, fun other _ => ?_⟩
    · exact .inr (supervisor.symm.trans stopped)
    · rw [events]
      exact next_stopped s.events
    · rw [events]
      exact fun x member => .inl (mem_next member)
    · exact absurd rfl (other now)

theorem framed_tick : Framed ⟨.tick now, engine⟩ s (s.tick engine now) := by
  have paced : Paced engine s (s.tick engine now) := tick_paced s
  generalize s.tick engine now = t at paced ⊢
  have aside (effects : s.effects <+: t.effects) (interrupted : t.interrupted = s.interrupted)
      (supervisor : t.supervisor = s.supervisor) (events : t.events = s.events) :
      Framed ⟨.tick now, engine⟩ s t := by
    refine ⟨effects, interrupted, fun stopped => .inr (supervisor.symm.trans stopped), ?_, ?_, ?_⟩
    · rw [events]
    · rw [events]
      exact fun e member => .inl member
    · exact fun _ other => absurd rfl (other now)
  cases paced with
  | rested phase consumer backoff onward => exact aside (List.prefix_refl _) rfl rfl rfl
  | discarded a rest cause consumer onward head refused permanent =>
    exact aside ⟨_, (List.append_assoc _ _ _).symm⟩ rfl rfl rfl
  | _ => exact aside (List.prefix_append _ _) rfl rfl rfl

theorem framed_supervise : Framed ⟨.supervise now, engine⟩ s (s.supervise engine now) := by
  have supervised : Supervised engine s (s.supervise engine now) := supervise_supervised s
  generalize s.supervise engine now = t at supervised ⊢
  have aside (effects : s.effects <+: t.effects) (interrupted : t.interrupted = s.interrupted)
      (events : t.events = s.events) (consumer : t.consumer = s.consumer)
      (supervisor : t.supervisor = .stopped → s.interrupted = true ∨ s.supervisor = .stopped) :
      Framed ⟨.supervise now, engine⟩ s t := by
    refine ⟨effects, interrupted, supervisor, ?_, ?_, fun _ _ => consumer⟩
    · rw [events]
    · rw [events]
      exact fun e member => .inl member
  cases supervised with
  | rested => exact aside (List.prefix_refl _) rfl rfl rfl .inr
  | moved expected supervisor backoff engaged same =>
    refine aside (List.prefix_refl _) rfl rfl rfl fun stopped => ?_
    simp only at stopped
    rw [stopped] at same
    exact absurd same.symm (Option.some_ne_none expected)
  | stopped interrupted => exact aside (List.prefix_refl _) rfl rfl rfl fun _ => .inl interrupted
  | collected first rest idle signals =>
    exact aside (List.prefix_refl _) rfl rfl rfl fun stopped => Supervisor.noConfusion stopped
  | released expected engaged stale =>
    exact aside (List.prefix_refl _) rfl rfl rfl fun stopped => Supervisor.noConfusion stopped
  | connected slept number attempting opened taken =>
    exact aside (List.prefix_append _ _) rfl rfl rfl fun stopped => Supervisor.noConfusion stopped
  | refused slept cause attempting opened answer =>
    exact aside (List.prefix_append _ _) rfl rfl rfl fun stopped => Supervisor.noConfusion stopped

theorem framed (m : Move) (s : Session) : Framed m s (s.after m) := by
  obtain ⟨step, engine⟩ := m
  cases step with
  | connect caller =>
    change Framed _ s (s.connect engine caller).2
    rw [connect_eq]
    split
    · split <;> exact .of_same (List.prefix_append _ _) rfl rfl rfl rfl
    · exact .of_same (List.prefix_refl _) rfl rfl rfl rfl
  | disconnect caller => exact framed_disconnect caller
  | request request caller =>
    have routed : Routed engine _ _ s (s.route engine request caller) := route_routed request caller s
    change Framed _ s (s.route engine request caller).2
    generalize s.route engine request caller = result at routed ⊢
    cases routed with
    | sent number taken ready => exact .of_same (List.prefix_append _ _) rfl rfl rfl rfl
    | refused error cause refused ready => exact .of_same (List.prefix_append _ _) rfl rfl rfl rfl
    | _ => exact .of_same (List.prefix_refl _) rfl rfl rfl rfl
  | dispatch now => exact framed_dispatch
  | tick now => exact framed_tick
  | supervise now => exact framed_supervise
  | adjust adjustment =>
    obtain ⟨settings, hooks, backoff, adjusted⟩ := adjust_eq adjustment s
    change Framed _ s (s.adjust adjustment)
    rw [adjusted]
    exact .of_same (List.prefix_refl _) rfl rfl rfl rfl
  | configureQueue capacity policy => exact .of_same (List.prefix_refl _) rfl rfl rfl rfl
  | report report => exact .of_push report (List.prefix_refl _) rfl rfl rfl rfl
  | expire timer => exact .of_same (List.prefix_refl _) rfl rfl rfl rfl

end

/-! ### The other sides -/

section

variable {m : Move} {s t : Session}

theorem after_consumer (m : Move) (others : m.isConsumers = false) :
    (s.after m).consumer = s.consumer := by
  refine (framed m s).consumer (fun now step => ?_) fun now step => ?_
  · simp [Move.isConsumers, step] at others
  · simp [Move.isConsumers, step] at others

inductive Rephased (m : Move) (s t : Session) : Prop where
  | same (phase : t.phase = s.phase)
  | connects (caller : Caller) (step : m.step = .connect caller)
      (phase : t.phase = .connecting ∨ t.phase = .idle)
  | attempts (now : Instant) (step : m.step = .supervise now) (opened : s.phase ≠ .userDisconnect)
      (phase : t.phase = .connecting)
  | closes (caller : Caller) (step : m.step = .disconnect caller) (phase : t.phase = .userDisconnect)

theorem rephased (m : Move) (others : m.isConsumers = false) (s : Session) :
    Rephased m s (s.after m) := by
  obtain ⟨step, engine⟩ := m
  cases step with
  | connect caller =>
    change Rephased _ s (s.connect engine caller).2
    rw [connect_eq]
    split
    · split
      · exact .connects caller rfl (.inl rfl)
      · exact .connects caller rfl (.inr rfl)
    · exact .same rfl
  | disconnect caller =>
    change Rephased _ s (s.disconnect engine caller).2
    rw [disconnect_eq]
    simp only
    split
    · split <;> exact .closes caller rfl rfl
    · exact .closes caller rfl rfl
  | request request caller =>
    have routed : Routed engine _ _ s (s.route engine request caller) := route_routed request caller s
    change Rephased _ s (s.route engine request caller).2
    generalize s.route engine request caller = result at routed ⊢
    cases routed <;> exact .same rfl
  | adjust adjustment =>
    obtain ⟨settings, hooks, backoff, adjusted⟩ := adjust_eq adjustment s
    change Rephased _ s (s.adjust adjustment)
    rw [adjusted]
    exact .same rfl
  | supervise now =>
    have supervised : Supervised engine s (s.supervise engine now) := supervise_supervised s
    change Rephased _ s (s.supervise engine now)
    generalize s.supervise engine now = t at supervised ⊢
    cases supervised with
    | connected slept number attempting opened taken => exact .attempts now rfl opened rfl
    | refused slept cause attempting opened answer => exact .attempts now rfl opened rfl
    | _ => exact .same rfl
  | configureQueue capacity policy => exact .same rfl
  | report report => exact .same rfl
  | expire timer => exact .same rfl
  | dispatch now => exact absurd others.symm Bool.false_ne_true
  | tick now => exact absurd others.symm Bool.false_ne_true

end

/-! ### Runs -/

theorem run_effects_grow (moves : List Move) (s : Session) : s.effects <+: (run moves s).effects := by
  induction moves generalizing s with
  | nil => exact List.prefix_refl _
  | cons m rest ih => exact (framed m s).effects.trans (ih _)

theorem since_run_cons (m : Move) (rest : List Move) (s : Session) :
    since s (run (m :: rest) s) = since s (s.after m) ++ since (s.after m) (run rest (s.after m)) := by
  obtain ⟨early, there⟩ := (framed m s).effects
  obtain ⟨late, here⟩ := run_effects_grow rest (s.after m)
  rw [since_of_append there.symm, since_of_append here.symm]
  refine since_of_append ?_
  rw [run, ← here, ← there, List.append_assoc]

theorem since_run_append (first second : List Move) (s : Session) :
    since s (run (first ++ second) s) =
      since s (run first s) ++ since (run first s) (run second (run first s)) := by
  obtain ⟨early, there⟩ := run_effects_grow first s
  obtain ⟨late, here⟩ := run_effects_grow second (run first s)
  rw [since_of_append there.symm, since_of_append here.symm, run_append]
  refine since_of_append ?_
  rw [← here, ← there, List.append_assoc]

end Session

end DurableMqtt
