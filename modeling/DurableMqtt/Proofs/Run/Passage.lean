import DurableMqtt.Proofs.Run.Frame

/-!
What a step can do to the connection of a session. The invariants about phases, epochs and
reconnects are all derived from this one analysis.
-/

namespace DurableMqtt

def Effect.isConnect : Effect → Bool
  | called (.connect _) _ _ => true
  | _ => false

def Effect.isRefusedConnect : Effect → Bool
  | called (.connect _) (.error _) _ => true
  | _ => false

def Event.isDisconnect (e : Event) : Bool := e.kind matches .disconnect _

namespace Session

/-- Whether a step asks the engine for a connection. The session is connecting while it does. -/
def asks (m : Move) (s : Session) : Bool := (since s (s.after m)).any Effect.isConnect

def asksInVain (m : Move) (s : Session) : Bool :=
  (since s (s.after m)).any Effect.isRefusedConnect

def isSupervision (m : Move) : Bool := m.step matches .supervise _

def dispatched? (m : Move) (s : Session) : Option Event :=
  match m.step with
  | .dispatch _ => s.nextEvent?
  | _ => none

def accepts (m : Move) (s : Session) : Bool := (dispatched? m s).any (·.kind == .connack 0)

/-- Whether a step dispatches the end of a connection that the session still waits for. -/
def misses (m : Move) (s : Session) : Bool :=
  s.phase == .connecting && (dispatched? m s).any fun e => e.kind matches .disconnect _

def hangsUp (m : Move) (s : Session) : Bool := (dispatched? m s).any Event.isDisconnect

/-- Whether a step dispatches the last acknowledgment that the resubscription waits for. -/
def settlesLast (m : Move) (s : Session) : Bool :=
  (dispatched? m s).any fun e =>
    e.ack?.isSome && (s.pending.find? e.id).any (·.resubscribe) && s.awaitsLast

def isRecovering (s : Session) : Bool := s.consumer.recovery.isSome

def Awake (s : Session) : Prop := s.interrupted = false ∧ s.supervisor ≠ .stopped

/-- What the sides agree about stays as it is. -/
structure Unmoved (s t : Session) : Prop where
  epoch : t.epoch = s.epoch
  signals : t.signals = s.signals
  expected : t.supervisor.expected? = s.supervisor.expected?

structure Quiet (m : Move) (s : Session) : Prop where
  unasked : asks m s = false
  unaccepted : accepts m s = false

/-- What a step comes to, as far as the connection goes. -/
inductive Passage (m : Move) (s t : Session) : Prop where
  /-- At most the recovery goes on, or ends. -/
  | still (quiet : Quiet m s) (unmoved : Unmoved s t)
      (phase : t.phase = s.phase ∨ s.phase.isConnected ∧ t.phase.isConnected)
      (recovery : t.isRecovering → s.isRecovering)
  /-- The supervisor takes up the reconnects that are scheduled. -/
  | collected (first : Nat) (rest : List Nat) (idle : s.supervisor.expected? = none)
      (scheduled : s.signals = first :: rest) (quiet : Quiet m s) (phase : t.phase = s.phase)
      (recovery : t.isRecovering → s.isRecovering) (epoch : t.epoch = s.epoch)
      (signals : t.signals = []) (expected : t.supervisor.expected? = some (rest.foldl max first))
  /-- The supervisor gives up. -/
  | released (expected : Nat) (engaged : s.supervisor.expected? = some expected)
      (stale : s.epoch ≠ expected ∨ s.phase = .userDisconnect) (quiet : Quiet m s)
      (phase : t.phase = s.phase)
      (recovery : t.isRecovering → s.isRecovering) (epoch : t.epoch = s.epoch)
      (signals : t.signals = s.signals) (idle : t.supervisor.expected? = none)
  /-- The application connects. -/
  | connects (caller : Caller) (step : m.step = .connect caller) (asked : asks m s = true)
      (phase : t.phase = .connecting ∨ t.phase = .idle) (epoch : t.epoch = s.epoch + 1)
      (signals : t.signals = s.signals) (expected : t.supervisor.expected? = s.supervisor.expected?)
  /-- The supervisor connects. -/
  | attempts (now : Instant) (step : m.step = .supervise now)
      (current : s.supervisor.expected? = some s.epoch) (opened : s.phase ≠ .userDisconnect)
      (asked : asks m s = true) (phase : t.phase = .connecting) (epoch : t.epoch = s.epoch + 1)
      (signals : t.signals = s.signals)
      (expected : t.supervisor.expected? = if asksInVain m s then some (s.epoch + 1) else none)
  /-- The application disconnects. -/
  | closes (caller : Caller) (step : m.step = .disconnect caller) (quiet : Quiet m s)
      (phase : t.phase = .userDisconnect) (epoch : t.epoch = s.epoch + 1) (signals : t.signals = s.signals)
      (expected : t.supervisor.expected? = s.supervisor.expected?)
  | welcomed (connecting : s.phase = .connecting) (unasked : asks m s = false)
      (accepted : accepts m s = true) (phase : t.phase.isConnected) (unmoved : Unmoved s t)
  /-- An accepting answer to an attempt that was given up. -/
  | ignored (elsewhere : s.phase ≠ .connecting) (unasked : asks m s = false)
      (accepted : accepts m s = true) (phase : t.phase = s.phase) (recovery : t.isRecovering = false)
      (unmoved : Unmoved s t)
  | turnedAway (connecting : s.phase = .connecting) (quiet : Quiet m s) (phase : t.phase = .idle)
      (recovery : t.isRecovering = false) (epoch : t.epoch = s.epoch + 1)
      (signals : t.signals = s.signals) (expected : t.supervisor.expected? = s.supervisor.expected?)
  /-- A connection ends before it is accepted, or one that was lost before ends at last. -/
  | missed (code : UInt8) (closed : (dispatched? m s).map Event.kind = some (.disconnect code))
      (connecting : s.phase = .connecting) (quiet : Quiet m s) (phase : t.phase = .connecting)
      (recovery : t.isRecovering = false) (epoch : t.epoch = s.epoch)
      (signals : t.signals = s.signals ++ [s.epoch])
      (expected : t.supervisor.expected? = s.supervisor.expected?)
  | lost (established : s.phase.isConnected ∨ s.phase = .abnormalDisconnect) (quiet : Quiet m s)
      (phase : t.phase = .abnormalDisconnect) (recovery : t.isRecovering = false)
      (epoch : t.epoch = s.epoch) (signals : t.signals = s.signals ++ [s.epoch])
      (expected : t.supervisor.expected? = s.supervisor.expected?)
  /-- An acknowledgment from an older session ends a resubscription while no session is up. -/
  | settled (last : settlesLast m s = true) (away : s.phase.isConnected = false)
      (opened : s.phase ≠ .userDisconnect) (quiet : Quiet m s) (phase : t.phase = .draining)
      (recovery : s.isRecovering = true) (unmoved : Unmoved s t)

variable {s t : Session} {m : Move} {engine : Engine} {now : Instant}

theorem misses_eq : misses m s = (s.phase == .connecting && hangsUp m s) := rfl

theorem asks_of_append {effects : List Effect}
    (appended : (s.after m).effects = s.effects ++ effects) :
    asks m s = effects.any Effect.isConnect := by
  unfold asks
  rw [since_of_append appended]

theorem asks_of_same (after : s.after m = t) (same : t.effects = s.effects) : asks m s = false := by
  rw [← after] at same
  exact asks_of_append (same.trans (List.append_nil _).symm)

theorem asksInVain_of_append {effects : List Effect}
    (appended : (s.after m).effects = s.effects ++ effects) :
    asksInVain m s = effects.any Effect.isRefusedConnect := by
  unfold asksInVain
  rw [since_of_append appended]

theorem asksInVain_of_unasked (unasked : asks m s = false) : asksInVain m s = false := by
  refine List.any_eq_false.mpr fun e member refused => ?_
  refine List.any_eq_false.mp unasked e member ?_
  unfold Effect.isRefusedConnect at refused
  split at refused
  · rfl
  · exact absurd refused Bool.false_ne_true

theorem accepts_of_other (other : ∀ now, m.step ≠ .dispatch now) : accepts m s = false := by
  unfold accepts dispatched?
  cases step : m.step with
  | dispatch now => exact absurd step (other now)
  | _ => rfl

theorem isConnect_request (r : Request) (answer : Except EngineError UInt32) (ticket : Option Nat) :
    (Effect.called r.call answer ticket).isConnect = false := by
  unfold Request.call
  cases r.action <;> rfl

theorem Quiet.of_calls (other : ∀ now, m.step ≠ .dispatch now) {effects : List Effect}
    (appended : (s.after m).effects = s.effects ++ effects)
    (plain : ∀ e ∈ effects, e.isConnect = false) : Quiet m s := by
  refine ⟨?_, accepts_of_other other⟩
  rw [asks_of_append appended]
  exact List.any_eq_false.mpr fun e member => ne_true_of_eq_false (plain e member)

theorem Quiet.of_same (other : ∀ now, m.step ≠ .dispatch now)
    (after : s.after m = t) (same : t.effects = s.effects) : Quiet m s :=
  ⟨asks_of_same after same, accepts_of_other other⟩

theorem Quiet.of_request (other : ∀ now, m.step ≠ .dispatch now) (r : Request)
    (answer : Except EngineError UInt32) (ticket : Option Nat) (after : s.after m = t)
    (appended : t.effects = s.effects ++ [.called r.call answer ticket]) : Quiet m s := by
  rw [← after] at appended
  refine .of_calls other appended fun e member => ?_
  rw [List.mem_singleton.mp member]
  exact isConnect_request r answer ticket

theorem isConnect_of_uncalled {effects : List Effect} (uncalled : Uncalled effects) :
    ∀ e ∈ effects, e.isConnect = false := by
  intro e member
  have quiet := uncalled e member
  cases e with
  | called call answer ticket => exact absurd quiet.symm Bool.false_ne_true
  | _ => rfl

theorem passage_connect (caller : Caller) :
    Passage ⟨.connect caller, engine⟩ s (s.connect engine caller).2 := by
  have after : s.after ⟨.connect caller, engine⟩ = (s.connect engine caller).2 := rfl
  rw [connect_eq] at after ⊢
  by_cases free : s.phase.acceptsConnect = true
  · simp only [free, ↓reduceIte] at after ⊢
    cases answer : engine (.connect s.settings.keepAlive) with
    | ok number =>
      simp only [answer] at after
      have asked := asks_of_append (congrArg effects after)
      exact .connects caller rfl asked (.inl rfl) rfl rfl rfl
    | error cause =>
      simp only [answer] at after
      have asked := asks_of_append (congrArg effects after)
      exact .connects caller rfl asked (.inr rfl) rfl rfl rfl
  · simp only [free, Bool.false_eq_true, ↓reduceIte] at after ⊢
    have quiet : Quiet ⟨.connect caller, engine⟩ s :=
      .of_same (fun _ => Step.noConfusion) after rfl
    exact .still quiet ⟨rfl, rfl, rfl⟩ (.inl rfl) id

theorem passage_disconnect (caller : Caller) :
    Passage ⟨.disconnect caller, engine⟩ s (s.disconnect engine caller).2 := by
  have after : s.after ⟨.disconnect caller, engine⟩ = (s.disconnect engine caller).2 := rfl
  have other : ∀ now, (⟨.disconnect caller, engine⟩ : Move).step ≠ .dispatch now :=
    fun _ => Step.noConfusion
  rw [disconnect_eq] at after ⊢
  by_cases connected : s.phase.isConnected = true
  · simp only [connected, ↓reduceIte] at after ⊢
    cases answer : engine .disconnect with
    | ok number =>
      simp only [answer] at after
      exact .closes caller rfl (.of_calls other (congrArg effects after) (by simp [Effect.isConnect]))
        rfl rfl rfl rfl
    | error cause =>
      simp only [answer] at after
      exact .closes caller rfl (.of_calls other (congrArg effects after) (by simp [Effect.isConnect]))
        rfl rfl rfl rfl
  · simp only [connected, Bool.false_eq_true, ↓reduceIte] at after ⊢
    exact .closes caller rfl (.of_same other after rfl) rfl rfl rfl rfl

theorem passage_request (request : Request) (caller : Caller) :
    Passage ⟨.request request caller, engine⟩ s (s.route engine request caller).2 := by
  have after : s.after ⟨.request request caller, engine⟩ = (s.route engine request caller).2 := rfl
  have other : ∀ now, (⟨.request request caller, engine⟩ : Move).step ≠ .dispatch now :=
    fun _ => Step.noConfusion
  have routed : Routed engine _ _ s (s.route engine request caller) := route_routed request caller s
  generalize s.route engine request caller = result at after routed ⊢
  cases routed with
  | sent number taken ready =>
    exact .still (.of_request other _ _ _ after rfl) ⟨rfl, rfl, rfl⟩ (.inl rfl) id
  | refused error cause refused ready =>
    exact .still (.of_request other _ _ _ after rfl) ⟨rfl, rfl, rfl⟩ (.inl rfl) id
  | _ => exact .still (.of_same other after rfl) ⟨rfl, rfl, rfl⟩ (.inl rfl) id

theorem passage_tick : Passage ⟨.tick now, engine⟩ s (s.tick engine now) := by
  have after : s.after ⟨.tick now, engine⟩ = s.tick engine now := rfl
  have other : ∀ later, (⟨.tick now, engine⟩ : Move).step ≠ .dispatch later :=
    fun _ => Step.noConfusion
  have paced : Paced engine s (s.tick engine now) := tick_paced s
  generalize s.tick engine now = t at after paced ⊢
  have still (quiet : Quiet ⟨.tick now, engine⟩ s) (unmoved : Unmoved s t)
      (onward : Onward s t.phase t.consumer) : Passage ⟨.tick now, engine⟩ s t :=
    .still quiet unmoved onward.phase onward.recovery
  cases paced with
  | rested phase consumer backoff onward =>
    exact still (.of_same other after rfl) ⟨rfl, rfl, rfl⟩ onward
  | restored record number phase consumer onward taken =>
    have quiet := Quiet.of_calls other (congrArg effects after) (by simp [Effect.isConnect])
    exact still quiet ⟨rfl, rfl, rfl⟩ onward
  | notRestored record cause phase consumer onward =>
    have quiet := Quiet.of_calls other (congrArg effects after) (by simp [Effect.isConnect])
    exact still quiet ⟨rfl, rfl, rfl⟩ onward
  | replayed a rest number consumer onward head taken =>
    exact still (.of_request other _ _ _ after rfl) ⟨rfl, rfl, rfl⟩ onward
  | putBack a rest cause consumer onward head refused transient =>
    exact still (.of_request other _ _ _ after rfl) ⟨rfl, rfl, rfl⟩ onward
  | discarded a rest cause consumer onward head refused permanent =>
    have appended := (congrArg effects after).trans (List.append_assoc _ _ _)
    refine still (.of_calls other appended fun e member => ?_) ⟨rfl, rfl, rfl⟩ onward
    rcases List.mem_append.mp member with calling | telling
    · rw [List.mem_singleton.mp calling]
      exact isConnect_request _ _ _
    · exact isConnect_of_uncalled (told_uncalled _ _ _) e telling

theorem passage_supervise (awake : s.Awake) :
    Passage ⟨.supervise now, engine⟩ s (s.supervise engine now) := by
  have after : s.after ⟨.supervise now, engine⟩ = s.supervise engine now := rfl
  have other : ∀ later, (⟨.supervise now, engine⟩ : Move).step ≠ .dispatch later :=
    fun _ => Step.noConfusion
  have supervised : Supervised engine s (s.supervise engine now) := supervise_supervised s
  generalize s.supervise engine now = t at after supervised ⊢
  cases supervised with
  | rested =>
    have quiet : Quiet ⟨.supervise now, engine⟩ s := .of_same other after rfl
    exact .still quiet ⟨rfl, rfl, rfl⟩ (.inl rfl) id
  | moved expected supervisor backoff engaged same =>
    have quiet : Quiet ⟨.supervise now, engine⟩ s := .of_same other after rfl
    exact .still quiet ⟨rfl, rfl, same.trans engaged.symm⟩ (.inl rfl) id
  | stopped interrupted =>
    rw [awake.1] at interrupted
    exact absurd interrupted Bool.false_ne_true
  | collected first rest idle signals =>
    have quiet : Quiet ⟨.supervise now, engine⟩ s := .of_same other after rfl
    exact .collected first rest (by rw [idle]; rfl) signals quiet rfl id rfl rfl rfl
  | released expected engaged stale =>
    have quiet : Quiet ⟨.supervise now, engine⟩ s := .of_same other after rfl
    exact .released expected engaged stale quiet rfl id rfl rfl rfl
  | connected slept number attempting opened taken =>
    have asked := asks_of_append (congrArg effects after)
    have taken : asksInVain ⟨.supervise now, engine⟩ s = false :=
      asksInVain_of_append (congrArg effects after)
    exact .attempts now rfl (by rw [attempting]; rfl) opened asked rfl rfl rfl (by rw [taken]; rfl)
  | refused slept cause attempting opened answer =>
    have asked := asks_of_append (congrArg effects after)
    have refused : asksInVain ⟨.supervise now, engine⟩ s = true :=
      asksInVain_of_append (congrArg effects after)
    exact .attempts now rfl (by rw [attempting]; rfl) opened asked rfl rfl rfl (by rw [refused]; rfl)

/-- The supervisor asks for a connection only while it takes its epoch for the current one and the
session for open. -/
theorem current_of_asks (asked : asks ⟨.supervise now, engine⟩ s = true) :
    s.supervisor.expected? = some s.epoch ∧ s.phase ≠ .userDisconnect := by
  have after : s.after ⟨.supervise now, engine⟩ = s.supervise engine now := rfl
  have supervised : Supervised engine s (s.supervise engine now) := supervise_supervised s
  have unasked (same : (s.supervise engine now).effects = s.effects) : False :=
    absurd ((asks_of_same after same).symm.trans asked) Bool.false_ne_true
  generalize s.supervise engine now = t at after supervised unasked
  cases supervised with
  | connected slept number attempting opened taken => exact ⟨by rw [attempting]; rfl, opened⟩
  | refused slept cause attempting opened answer => exact ⟨by rw [attempting]; rfl, opened⟩
  | _ => exact (unasked rfl).elim

theorem isRecovering_of_awaitsLast (last : s.awaitsLast = true) : s.isRecovering = true := by
  unfold awaitsLast at last
  unfold isRecovering
  cases stage : s.consumer.recovery with
  | none =>
    rw [stage] at last
    exact absurd last Bool.false_ne_true
  | some r => rfl

theorem asks_dispatch : asks ⟨.dispatch now, engine⟩ s = false := by
  have after : s.after ⟨.dispatch now, engine⟩ = s.dispatch engine now := rfl
  have dispatched : Dispatched now s (s.dispatch engine now) := dispatch_dispatched s
  generalize s.dispatch engine now = t at after dispatched
  cases dispatched with
  | idle none =>
    exact asks_of_same after rfl
  | handled e next t handled =>
    obtain ⟨effects, appended, uncalled⟩ := handled.uncalled
    rw [asks_of_append ((congrArg Session.effects after).trans appended)]
    exact List.any_eq_false.mpr fun x member =>
      ne_true_of_eq_false (isConnect_of_uncalled uncalled x member)

theorem accepts_dispatch {e : Event} (next : s.nextEvent? = some e) :
    accepts ⟨.dispatch now, engine⟩ s = (e.kind == .connack 0) := by
  have seen : dispatched? ⟨.dispatch now, engine⟩ s = some e := next
  rw [accepts, seen]
  rfl

theorem quiet_of_kind {e : Event} (next : s.nextEvent? = some e) (other : e.kind ≠ .connack 0) :
    Quiet ⟨.dispatch now, engine⟩ s :=
  ⟨asks_dispatch, (accepts_dispatch next).trans (beq_false_of_ne other)⟩

theorem quiet_of_ack {e : Event} {ack : Ack} (next : s.nextEvent? = some e)
    (of : e.ack? = some ack) : Quiet ⟨.dispatch now, engine⟩ s := by
  refine quiet_of_kind next fun kind => ?_
  rw [Event.ack?, kind] at of
  exact absurd of.symm (Option.some_ne_none ack)

theorem passage_dispatch : Passage ⟨.dispatch now, engine⟩ s (s.dispatch engine now) := by
  have dispatched : Dispatched now s (s.dispatch engine now) := dispatch_dispatched s
  generalize s.dispatch engine now = t at dispatched ⊢
  cases dispatched with
  | idle none =>
    have seen : dispatched? ⟨.dispatch now, engine⟩ s = .none := none
    exact .still ⟨asks_dispatch, by rw [accepts, seen]; rfl⟩ ⟨rfl, rfl, rfl⟩ (.inl rfl) id
  | handled e next t handled =>
    have seen : dispatched? ⟨.dispatch now, engine⟩ s = some e := next
    have accepting (kind : e.kind = .connack 0) : accepts ⟨.dispatch now, engine⟩ s = true := by
      rw [accepts_dispatch next, kind, beq_self_eq_true]
    cases handled with
    | welcomed kind connecting =>
      refine .welcomed connecting asks_dispatch (accepting kind) ?_ ⟨rfl, rfl, rfl⟩
      simp only
      split <;> rfl
    | turnedAway code kind refused connecting =>
      have other : e.kind ≠ .connack 0 := by
        rw [kind]
        exact fun same => refused (EventKind.connack.inj same)
      exact .turnedAway connecting (quiet_of_kind next other) rfl rfl rfl rfl rfl
    | unheeded code kind elsewhere =>
      by_cases welcome : e.kind = .connack 0
      · exact .ignored elsewhere asks_dispatch (accepting welcome) rfl rfl ⟨rfl, rfl, rfl⟩
      · exact .still (quiet_of_kind next welcome) ⟨rfl, rfl, rfl⟩ (.inl rfl) fun up =>
          absurd up Bool.false_ne_true
    | hungUp code kind t hungUp =>
      have quiet : Quiet ⟨.dispatch now, engine⟩ s :=
        quiet_of_kind next (by rw [kind]; exact EventKind.noConfusion)
      have closed : (dispatched? ⟨.dispatch now, engine⟩ s).map Event.kind =
          some (.disconnect code) := by rw [seen, Option.map_some, kind]
      cases hungUp with
      | closed phase =>
        exact .still quiet ⟨rfl, rfl, rfl⟩ (.inl rfl) fun up => absurd up Bool.false_ne_true
      | idle phase =>
        exact .still quiet ⟨rfl, rfl, rfl⟩ (.inl rfl) fun up => absurd up Bool.false_ne_true
      | connecting phase => exact .missed code closed phase quiet phase rfl rfl rfl rfl
      | lost established => exact .lost established quiet rfl rfl rfl rfl rfl
    | unknown ack of unknown => exact .still (quiet_of_ack next of) ⟨rfl, rfl, rfl⟩ (.inl rfl) id
    | acknowledged ack of entry found consumer kept =>
      have quiet : Quiet ⟨.dispatch now, engine⟩ s := quiet_of_ack next of
      by_cases last : (entry.resubscribe && s.awaitsLast) = true
      · have phase : (if entry.resubscribe && awaitsLast { s with events := s.events.next.2 } then
            s.phase.write .draining else s.phase) = s.phase.write .draining := if_pos last
        have settles : settlesLast ⟨.dispatch now, engine⟩ s = true := by
          have found : s.pending.find? e.id = some entry := found
          simp only [settlesLast, seen, Option.any_some, of, Option.isSome_some, found,
            Bool.true_and]
          exact last
        by_cases closed : s.phase = .userDisconnect
        · refine .still quiet ⟨rfl, rfl, rfl⟩ (.inl (phase.trans ?_)) kept
          rw [closed]
          rfl
        · have draining := phase.trans (Phase.write_of_open _ _ closed)
          by_cases connected : s.phase.isConnected = true
          · refine .still quiet ⟨rfl, rfl, rfl⟩ (.inr ⟨connected, ?_⟩) kept
            exact (congrArg (·.isConnected = true) draining).mpr rfl
          · exact .settled settles (Bool.eq_false_of_not_eq_true connected) closed quiet draining
              (isRecovering_of_awaitsLast ((Bool.and_eq_true _ _).mp last).2) ⟨rfl, rfl, rfl⟩
      · exact .still quiet ⟨rfl, rfl, rfl⟩ (.inl (if_neg last)) kept
    | delivered m kind consumer effects same hooks =>
      have quiet : Quiet ⟨.dispatch now, engine⟩ s :=
        quiet_of_kind next (by rw [kind]; exact EventKind.noConfusion)
      refine .still quiet ⟨rfl, rfl, rfl⟩ (.inl rfl) fun up => ?_
      rwa [isRecovering, same] at up

theorem passage (awake : s.Awake) (m : Move) : Passage m s (s.after m) := by
  obtain ⟨step, engine⟩ := m
  have quiet {t : Session} (after : s.after ⟨step, engine⟩ = t) (effects : t.effects = s.effects)
      (other : ∀ now, step ≠ .dispatch now) : Quiet ⟨step, engine⟩ s :=
    .of_same other after effects
  cases step with
  | connect caller => exact passage_connect caller
  | disconnect caller => exact passage_disconnect caller
  | request request caller => exact passage_request request caller
  | dispatch now => exact passage_dispatch
  | tick now => exact passage_tick
  | supervise now => exact passage_supervise awake
  | adjust adjustment =>
    obtain ⟨settings, hooks, backoff, adjusted⟩ := adjust_eq adjustment s
    have after : s.after ⟨.adjust adjustment, engine⟩ = { s with settings, hooks, backoff } := adjusted
    rw [after]
    exact .still (quiet after rfl fun _ => Step.noConfusion) ⟨rfl, rfl, rfl⟩ (.inl rfl) id
  | configureQueue capacity policy =>
    exact .still (quiet rfl rfl fun _ => Step.noConfusion) ⟨rfl, rfl, rfl⟩ (.inl rfl) id
  | report report =>
    exact .still (quiet rfl rfl fun _ => Step.noConfusion) ⟨rfl, rfl, rfl⟩ (.inl rfl) id
  | expire timer =>
    exact .still (quiet rfl rfl fun _ => Step.noConfusion) ⟨rfl, rfl, rfl⟩ (.inl rfl) id

theorem Unmoved.epoch_le (unmoved : Unmoved s t) : t.epoch ≤ s.epoch + 1 :=
  unmoved.epoch.le.trans (Nat.le_succ _)

theorem Passage.epoch_le (passage : Passage m s t) : t.epoch ≤ s.epoch + 1 := by
  cases passage with
  | still quiet unmoved phase recovery => exact unmoved.epoch_le
  | welcomed connecting unasked accepted phase unmoved => exact unmoved.epoch_le
  | ignored elsewhere unasked accepted phase recovery unmoved => exact unmoved.epoch_le
  | settled last away opened quiet phase recovery unmoved => exact unmoved.epoch_le
  | _ => omega

theorem epoch_after_le (m : Move) (s : Session) : (s.after m).epoch ≤ s.epoch + 1 := by
  obtain ⟨step, engine⟩ := m
  cases step with
  | connect caller => exact (passage_connect caller).epoch_le
  | disconnect caller => exact (passage_disconnect caller).epoch_le
  | request request caller => exact (passage_request request caller).epoch_le
  | dispatch now => exact passage_dispatch.epoch_le
  | tick now => exact passage_tick.epoch_le
  | supervise now =>
    -- Also of a session that was taken down.
    have supervised : Supervised engine s (s.supervise engine now) := supervise_supervised s
    change (s.supervise engine now).epoch ≤ s.epoch + 1
    generalize s.supervise engine now = t at supervised ⊢
    cases supervised with
    | connected | refused => exact Nat.le_refl _
    | _ => exact Nat.le_succ _
  | adjust adjustment =>
    obtain ⟨settings, hooks, backoff, adjusted⟩ := adjust_eq adjustment s
    change (s.adjust adjustment).epoch ≤ s.epoch + 1
    rw [adjusted]
    exact Nat.le_succ _
  | configureQueue | report | expire => exact Nat.le_succ _

/-- The last acknowledgment of a resubscription has the session drain, whatever its phase. -/
theorem after_of_settlesLast (settles : settlesLast m s = true) :
    (s.after m).phase = s.phase.write .draining ∧ s.isRecovering = true ∧ Quiet m s := by
  obtain ⟨step, engine⟩ := m
  cases step with
  | dispatch now =>
    have seen : dispatched? ⟨.dispatch now, engine⟩ s = s.nextEvent? := rfl
    have dispatched : Dispatched now s (s.dispatch engine now) := dispatch_dispatched s
    change (s.dispatch engine now).phase = _ ∧ _
    unfold settlesLast at settles
    rw [seen] at settles
    generalize s.dispatch engine now = t at dispatched ⊢
    cases dispatched with
    | idle none =>
      rw [none] at settles
      exact absurd settles Bool.false_ne_true
    | handled e next t handled =>
      simp only [next, Option.any_some, Bool.and_eq_true] at settles
      obtain ⟨⟨of, restored⟩, last⟩ := settles
      have recovering := isRecovering_of_awaitsLast last
      cases handled with
      | acknowledged ack of entry found consumer kept =>
        have found : s.pending.find? e.id = some entry := found
        have settling : (entry.resubscribe && s.awaitsLast) = true := by
          rw [found] at restored
          rw [last, Bool.and_true]
          exact restored
        exact ⟨if_pos settling, recovering, quiet_of_ack next of⟩
      | unknown ack of unknown =>
        have unknown : s.pending.find? e.id = none := unknown
        rw [unknown] at restored
        exact absurd restored Bool.false_ne_true
      | welcomed kind connecting => simp [Event.ack?, kind] at of
      | turnedAway code kind refused connecting => simp [Event.ack?, kind] at of
      | unheeded code kind elsewhere => simp [Event.ack?, kind] at of
      | hungUp code kind t hungUp => simp [Event.ack?, kind] at of
      | delivered m kind consumer effects same hooks => simp [Event.ack?, kind] at of
  | _ => exact absurd settles Bool.false_ne_true

theorem ack?_of_closing {e : Event} (closing : e.isDisconnect = true) : e.ack? = none := by
  unfold Event.ack?
  cases kind : e.kind with
  | disconnect code => rfl
  | _ => simp [Event.isDisconnect, kind] at closing

theorem after_of_misses (missing : misses m s = true) :
    (s.after m).phase = .connecting ∧ (s.after m).signals = s.signals ++ [s.epoch] := by
  obtain ⟨phase, closing⟩ := (Bool.and_eq_true _ _).mp missing
  have connecting : s.phase = .connecting := eq_of_beq phase
  obtain ⟨step, engine⟩ := m
  cases step with
  | dispatch now =>
    have seen : dispatched? ⟨.dispatch now, engine⟩ s = s.nextEvent? := rfl
    have dispatched : Dispatched now s (s.dispatch engine now) := dispatch_dispatched s
    change (s.dispatch engine now).phase = _ ∧ (s.dispatch engine now).signals = _
    rw [seen] at closing
    generalize s.dispatch engine now = t at dispatched ⊢
    cases dispatched with
    | idle none =>
      rw [none] at closing
      exact absurd closing Bool.false_ne_true
    | handled e next t handled =>
      rw [next, Option.any_some] at closing
      cases handled with
      | hungUp code kind t hungUp =>
        cases hungUp with
        | connecting phase => exact ⟨phase, rfl⟩
        | closed phase => exact absurd (phase.symm.trans connecting) Phase.noConfusion
        | idle phase => exact absurd (phase.symm.trans connecting) Phase.noConfusion
        | lost established => simp [connecting, Phase.isConnected] at established
      | welcomed kind connecting => simp [kind] at closing
      | turnedAway code kind refused connecting => simp [kind] at closing
      | unheeded code kind elsewhere => simp [kind] at closing
      | unknown ack of unknown =>
        rw [ack?_of_closing closing] at of
        exact absurd of.symm (Option.some_ne_none ack)
      | acknowledged ack of entry found consumer kept =>
        rw [ack?_of_closing closing] at of
        exact absurd of.symm (Option.some_ne_none ack)
      | delivered m kind consumer effects same hooks => simp [kind] at closing
  | _ => exact absurd closing Bool.false_ne_true

/-! ### Staying up -/

theorem Awake.start (settings : Settings) : (start settings).Awake := ⟨rfl, Supervisor.noConfusion⟩

theorem Awake.after (awake : s.Awake) (m : Move) : (s.after m).Awake := by
  have frame := framed m s
  refine ⟨frame.interrupted.trans awake.1, fun stopped => ?_⟩
  rcases frame.supervisor stopped with interrupted | before
  · rw [awake.1] at interrupted
    exact absurd interrupted Bool.false_ne_true
  · exact awake.2 before

end Session

end DurableMqtt
