import DurableMqtt.Proofs.Run.Granting
import DurableMqtt.Proofs.Run.Restoration

/-!
What a session carries along, and where it comes from.

A request is taken on when it is parked or put to the engine. From then on the session may hold it
in the queue, in the table, among its subscriptions and among those to be restored, and may ask it
of the engine any number of times. It makes up no request of its own. So what holds of all that a
session carries in a run is what holds of the requests that it takes on.
-/

namespace DurableMqtt

namespace OfflineQueue

variable {α : Type}

def isClosed (q : OfflineQueue α) : Bool := q.isDisabled || q.isFull && q.policy = .dropNewest

theorem append_of_closed {q : OfflineQueue α} (closed : q.isClosed = true) (item : α) :
    q.append item = (if q.isDisabled then .disabled else .full, q) := by
  obtain ⟨items, capacity, policy⟩ := q
  unfold isClosed isDisabled isFull at closed
  unfold append isDisabled
  cases capacity with
  | disabled => rfl
  | unbounded => simp at closed
  | bounded limit =>
    obtain ⟨full, keeps⟩ : limit ≤ items.length ∧ policy = .dropNewest := by simpa using closed
    simp [full, keeps]

end OfflineQueue

structure PendingEntry.Carries (P : EngineCall → Prop) (e : PendingEntry) : Prop where
  request : ∀ a, e.replay = some a → P a.request.call
  subscription : ∀ record, e.effect = .subscribe record → P record.call

namespace Session

/-- The request that a step has the session take on, if any. -/
def takesOn? (m : Move) (s : Session) : Option Request :=
  match m.step with
  | .request request _ =>
    if request.hasValidTopic && !(s.phase.isRecovering && s.queue.isClosed) then some request
    else none
  | _ => none

def takenOn : List Move → Session → List Request
  | [], _ => []
  | m :: rest, s => (takesOn? m s).toList ++ takenOn rest (s.after m)

/-- Whatever a session holds and whatever it has asked of its engine satisfies `P`. -/
structure Carries (P : EngineCall → Prop) (s : Session) : Prop where
  parked : ∀ a ∈ s.queue.items, P a.request.call
  table : ∀ entry ∈ s.pending.entries, entry.2.Carries P
  subscribed : ∀ record ∈ s.registry.records, P record.call
  unsent : ∀ record ∈ s.unsent, P record.call
  asked : ∀ call answer ticket, .called call answer ticket ∈ s.effects → P call

inductive Voices (m : Move) (s : Session) : EngineCall → Prop where
  | plain (call : EngineCall) (plain : call.topic? = none) : Voices m s call
  | restored (record : Subscription) (unsent : record ∈ s.unsent) : Voices m s record.call
  | replayed (a : Accepted) (parked : a ∈ s.queue.items) : Voices m s a.request.call
  | asked (request : Request) (caller : Caller) (step : m.step = .request request caller) :
      Voices m s request.call

variable {P : EngineCall → Prop} {s t : Session} {m : Move} {engine : Engine} {now : Instant}

/-! ### Calls -/

/-- Every call among the effects was there before, or is one that the step can ask for and has the
engine's answer. -/
def VoicesAll (m : Move) (s t : Session) : Prop :=
  ∀ call answer ticket, .called call answer ticket ∈ t.effects →
    .called call answer ticket ∈ s.effects ∨ m.engine call = answer ∧ Voices m s call

namespace VoicesAll

theorem same (effects : t.effects = s.effects) : VoicesAll m s t := by
  intro call answer ticket member
  rw [effects] at member
  exact .inl member

theorem uncalled {effects : List Effect} (appended : t.effects = s.effects ++ effects)
    (uncalled : Uncalled effects) : VoicesAll m s t := by
  intro call answer ticket member
  rw [appended] at member
  refine (List.mem_append.mp member).imp_right fun new => ?_
  exact absurd (uncalled _ new).symm Bool.false_ne_true

theorem called {call : EngineCall} {answer : Except EngineError UInt32} {ticket : Option Nat}
    (appended : t.effects = s.effects ++ [.called call answer ticket])
    (answered : m.engine call = answer) (voices : Voices m s call) : VoicesAll m s t := by
  intro other answer ticket member
  rw [appended] at member
  refine (List.mem_append.mp member).imp_right fun new => ?_
  cases List.mem_singleton.mp new
  exact ⟨answered, voices⟩

end VoicesAll

theorem effects_scheduleTick (interval : Duration) (s : Session) :
    (s.scheduleTick now interval).effects = s.effects := by
  obtain ⟨consumer, scheduled, -⟩ := scheduleTick_eq now interval s
  rw [scheduled]

theorem effects_settleTick (interval : Duration) (s : Session) :
    (s.settleTick now interval).effects = s.effects := by
  unfold settleTick
  simp only
  split
  · exact effects_scheduleTick interval s
  · split
    · rw [enterDraining_eq]
      split <;> exact effects_scheduleTick interval s
    · exact effects_scheduleTick interval s

theorem voicesAll_replayHead {step : Step} (a : Accepted) (parked : a ∈ s.queue.items)
    (same : t.effects = s.effects) : VoicesAll ⟨step, engine⟩ s (t.replayHead engine a) := by
  simp only [replayHead, issue_eq]
  cases answer : engine a.request.call with
  | ok number => exact .called (congrArg (· ++ _) same) answer (.replayed a parked)
  | error cause =>
    have refused : VoicesAll ⟨step, engine⟩ s { t with
        effects := t.effects ++ [.called a.request.call (.error cause) (some a.ticket)] } :=
      .called (congrArg (· ++ _) same) answer (.replayed a parked)
    simp only [respond_eq]
    split
    · exact refused
    · intro call answer ticket member
      rcases List.mem_append.mp member with early | telling
      · exact refused call answer ticket early
      · exact absurd (told_uncalled _ _ _ _ telling).symm Bool.false_ne_true

theorem voicesAll_drainOne {step : Step} (interval : Duration) :
    VoicesAll ⟨step, engine⟩ s (s.drainOne engine now interval) := by
  unfold drainOne
  split
  · split <;> exact .same rfl
  next a queue popped =>
    have parked : a ∈ s.queue.items := by
      unfold OfflineQueue.pop at popped
      split at popped
      · cases popped
      next first rest items =>
        obtain ⟨rfl, -⟩ := Prod.mk.inj (Option.some.inj popped)
        rw [items]
        exact List.mem_cons_self
    intro call answer ticket member
    rw [effects_scheduleTick] at member
    exact voicesAll_replayHead (t := { s with queue }) a parked rfl call answer ticket member

theorem voicesAll_resubscribeOne {step : Step} (interval : Duration) :
    VoicesAll ⟨step, engine⟩ s (s.resubscribeOne engine now interval) := by
  unfold resubscribeOne
  cases held : s.consumer.recovery with
  | none => exact .same rfl
  | some r =>
    have sent : VoicesAll ⟨step, engine⟩ s (s.resubscribeNext engine r) := by
      unfold resubscribeNext
      split
      next record rest outstanding stage =>
        have unsent : record ∈ s.unsent := by
          obtain ⟨stage', nextTick⟩ := r
          subst stage
          unfold Session.unsent
          rw [held]
          exact List.mem_cons_self
        simp only [resubscribe_eq]
        split
        next number answer => exact .called rfl answer (.restored record unsent)
        next cause answer => exact .called rfl answer (.restored record unsent)
      next => exact .same rfl
    change VoicesAll ⟨step, engine⟩ s ((s.resubscribeNext engine r).settleTick now interval)
    intro call answer ticket member
    rw [effects_settleTick] at member
    exact sent call answer ticket member

theorem voicesAll_tick {step : Step} : VoicesAll ⟨step, engine⟩ s (s.tick engine now) := by
  rw [tick_eq]
  split
  · unfold paceNow
    split
    · split
      · exact voicesAll_drainOne _
      · exact voicesAll_resubscribeOne _
      · exact .same rfl
    · exact .same rfl
  · exact .same rfl

theorem voicesAll (m : Move) (s : Session) : VoicesAll m s (s.after m) := by
  obtain ⟨step, engine⟩ := m
  cases step with
  | connect caller =>
    change VoicesAll _ s (s.connect engine caller).2
    rw [connect_eq]
    split
    · split
      next number answer => exact .called rfl answer (.plain _ rfl)
      next cause answer => exact .called rfl answer (.plain _ rfl)
    · exact .same rfl
  | disconnect caller =>
    change VoicesAll _ s (s.disconnect engine caller).2
    rw [disconnect_eq]
    simp only
    split
    · split
      next number answer => exact .called rfl answer (.plain _ rfl)
      next cause answer => exact .called rfl answer (.plain _ rfl)
    · exact .same rfl
  | request request caller =>
    have routed : Routed engine _ _ s (s.route engine request caller) :=
      route_routed request caller s
    change VoicesAll _ s (s.route engine request caller).2
    generalize s.route engine request caller = result at routed ⊢
    cases routed with
    | sent number taken ready => exact .called rfl taken (.asked request caller rfl)
    | refused error cause refused ready => exact .called rfl refused (.asked request caller rfl)
    | _ => exact .same rfl
  | adjust adjustment =>
    obtain ⟨settings, hooks, backoff, adjusted⟩ := adjust_eq adjustment s
    change VoicesAll _ s (s.adjust adjustment)
    rw [adjusted]
    exact .same rfl
  | dispatch now =>
    have dispatched : Dispatched now s (s.dispatch engine now) := dispatch_dispatched s
    change VoicesAll _ s (s.dispatch engine now)
    generalize s.dispatch engine now = t at dispatched ⊢
    cases dispatched with
    | idle none => exact .same rfl
    | handled e next t handled =>
      obtain ⟨effects, appended, uncalled⟩ := handled.uncalled
      exact .uncalled appended uncalled
  | tick now => exact voicesAll_tick
  | supervise now =>
    have supervised : Supervised engine s (s.supervise engine now) := supervise_supervised s
    change VoicesAll _ s (s.supervise engine now)
    generalize s.supervise engine now = t at supervised ⊢
    cases supervised with
    | connected slept number attempting opened taken => exact .called rfl taken (.plain _ rfl)
    | refused slept cause attempting opened answer => exact .called rfl answer (.plain _ rfl)
    | _ => exact .same rfl
  | configureQueue | report | expire => exact .same rfl

theorem answered_run (moves : List Move) (s : Session) {call : EngineCall}
    {answer : Except EngineError UInt32} {ticket : Option Nat}
    (called : .called call answer ticket ∈ (run moves s).effects) :
    .called call answer ticket ∈ s.effects ∨ ∃ m ∈ moves, m.engine call = answer := by
  induction moves generalizing s with
  | nil => exact .inl called
  | cons m rest ih =>
    rcases ih (s.after m) called with earlier | ⟨other, member, answered⟩
    · refine (voicesAll m s call answer ticket earlier).imp_right fun ⟨answered, _⟩ => ?_
      exact ⟨m, List.mem_cons_self, answered⟩
    · exact .inr ⟨other, List.mem_cons_of_mem m member, answered⟩

/-! ### Taking on -/

theorem route_closed (request : Request) (caller : Caller) (valid : request.hasValidTopic = true)
    (recovering : s.phase.isRecovering = true) (closed : s.queue.isClosed = true) :
    (s.route engine request caller).2 = s := by
  have same : (request.withListener caller.listener).hasValidTopic = true := valid
  unfold route
  simp only [same, recovering, Bool.not_true, Bool.false_eq_true, ↓reduceIte, accept,
    OfflineQueue.append_of_closed closed]
  cases disabled : s.queue.isDisabled with
  | true => rfl
  | false =>
    have keeps : s.queue.policy = .dropNewest := by
      rw [OfflineQueue.isClosed, disabled, Bool.false_or, Bool.and_eq_true] at closed
      exact of_decide_eq_true closed.2
    simp [keeps]

theorem route_opened (request : Request) (caller : Caller) (valid : request.hasValidTopic = true)
    (recovering : s.phase.isRecovering = true) (opened : s.queue.isClosed = false) :
    s.taken request caller ∈ (s.route engine request caller).2.queue.items := by
  have same : (request.withListener caller.listener).hasValidTopic = true := valid
  have last (items : List Accepted) :
      s.taken request caller ∈ items ++ [s.taken request caller] :=
    List.mem_append_right items (List.mem_singleton_self _)
  have appends := s.queue.append_appends (s.taken request caller)
  unfold route
  simp only [same, recovering, Bool.not_true, Bool.false_eq_true, ↓reduceIte, accept]
  unfold taken at appends last ⊢
  generalize s.queue.append ⟨s.nextTicket, request.withListener caller.listener⟩ = result
    at appends ⊢
  cases appends with
  | stored => exact last _
  | evicting limit capacity full policy => exact last _
  | disabled disabled => simp [OfflineQueue.isClosed, OfflineQueue.isDisabled, disabled] at opened
  | turnedAway limit capacity full policy =>
    simp [OfflineQueue.isClosed, OfflineQueue.isFull, capacity, full, policy] at opened

theorem takesOn?_eq_some {request : Request} :
    takesOn? m s = some request ↔ ∃ caller, m.step = .request request caller ∧
      request.hasValidTopic = true ∧
      (s.phase.isRecovering = true → s.queue.isClosed = false) := by
  unfold takesOn?
  cases m.step with
  | request request caller =>
    cases s.phase.isRecovering <;> cases s.queue.isClosed <;> simp +contextual [and_comm]
  | _ => simp

theorem after_of_untaken {request : Request} {caller : Caller}
    (step : m.step = .request request caller) (untaken : takesOn? m s ≠ some request) :
    s.after m = s := by
  cases valid : request.hasValidTopic with
  | false => exact after_of_invalid step valid s
  | true =>
    obtain ⟨recovering, closed⟩ : s.phase.isRecovering = true ∧ s.queue.isClosed = true := by
      simpa [takesOn?, step, valid] using untaken
    unfold after
    rw [step]
    exact route_closed request caller valid recovering closed

theorem Carries.of_taken {request : Request} (carries : Carries P (s.after m))
    (taken : takesOn? m s = some request) : P request.call := by
  obtain ⟨caller, step, valid, ready⟩ := takesOn?_eq_some.mp taken
  obtain ⟨_, engine⟩ := m
  cases step
  cases recovering : s.phase.isRecovering with
  | true =>
    exact carries.parked _ (route_opened request caller valid recovering (ready recovering))
  | false =>
    have called : ∀ call answer ticket, .called call answer ticket ∈
        (s.route engine request caller).2.effects → P call := carries.asked
    rw [route_sent request caller s valid recovering] at called
    cases answer : engine request.call with
    | ok number | error cause =>
      rw [answer] at called
      exact called _ _ _ (List.mem_append_right _ (List.mem_singleton_self _))

/-! ### Carrying -/

theorem Carries.start (P : EngineCall → Prop) (settings : Settings) :
    Carries P (start settings) where
  parked _ member := absurd member List.not_mem_nil
  table _ member := absurd member List.not_mem_nil
  subscribed _ member := absurd member List.not_mem_nil
  unsent _ member := absurd member List.not_mem_nil
  asked _ _ _ member := absurd member List.not_mem_nil

theorem call_of_effect {r : Request} {record : Subscription}
    (grants : r.effect = .subscribe record) : record.call = r.call := by
  unfold Request.effect at grants
  unfold Request.call
  cases action : r.action with
  | subscribe qos handler =>
    rw [action] at grants
    cases grants
    rfl
  | publish | unsubscribe =>
    rw [action] at grants
    cases grants

theorem carries_entryOf {a : Accepted} {responder : Option Responder} (holds : P a.request.call) :
    (entryOf a responder).Carries P where
  request _ same := by
    cases same
    exact holds
  subscription record grants := by
    rw [call_of_effect grants]
    exact holds

theorem carries_restoring {record : Subscription} (holds : P record.call) :
    (restoring record).Carries P where
  request _ same := by cases same
  subscription _ same := by
    cases same
    exact holds

theorem carries_plain {e : PendingEntry} (plain : e = { responder := e.responder }) :
    e.Carries P where
  request a same := by
    rw [plain] at same
    cases same
  subscription record same := by
    rw [plain] at same
    cases same

theorem carries_replayed {e : PendingEntry} (carries : e.Carries P) {a : Accepted}
    (again : e.replayed = some a) : P a.request.call := by
  obtain ⟨sent, keeps, rfl⟩ := Option.map_eq_some_iff.mp again
  exact carries.request sent keeps

theorem Carries.after_of_asked (carries : Carries P s) (plain : ∀ call, call.topic? = none → P call)
    (asked : ∀ request caller, m.step = .request request caller → P request.call) :
    Carries P (s.after m) := by
  have passed := passes m s
  constructor
  case parked =>
    intro a member
    cases passed.parks a member with
    | before parked => exact carries.parked a parked
    | asked request caller step recovering same =>
      rw [same]
      exact asked request caller step
    | replayed entry stood again => exact carries_replayed (carries.table entry stood) again
  case table =>
    intro entry member
    have inserted {id : RequestId} {e : PendingEntry}
        (pending : (s.after m).pending = s.pending.insert id e) (new : e.Carries P) :
        entry.2.Carries P := by
      rw [pending] at member
      rcases mem_insert member with old | same
      · exact carries.table entry old
      · rw [same]
        exact new
    cases passed.table with
    | kept untaken entries =>
      rcases entries entry member with old | ⟨-, answers, -⟩
      · exact carries.table entry old
      · exact carries_plain answers
    | restored record unsent number effects pending =>
      exact inserted pending (carries_restoring (carries.unsent record unsent))
    | replayed a rest head number effects pending =>
      refine inserted pending (carries_entryOf (carries.parked a ?_))
      rw [head]
      exact List.mem_cons_self
    | asked request caller step ready a same number effects pending =>
      refine inserted pending (carries_entryOf ?_)
      rw [same]
      exact asked request caller step
  case subscribed =>
    intro record member
    rcases passed.grants record member with old | ⟨entry, stood, grants⟩
    · exact carries.subscribed record old
    · exact (carries.table entry stood).subscription record grants
  case unsent =>
    intro record member
    rcases passed.unsent record member with old | granted
    · exact carries.unsent record old
    · exact carries.subscribed record granted
  case asked =>
    intro call answer ticket member
    rcases voicesAll m s call answer ticket member with old | ⟨-, new⟩
    · exact carries.asked call answer ticket old
    · cases new with
      | plain _ untopical => exact plain call untopical
      | restored record unsent => exact carries.unsent record unsent
      | replayed a parked => exact carries.parked a parked
      | asked request caller step => exact asked request caller step

theorem Carries.after (carries : Carries P s) (plain : ∀ call, call.topic? = none → P call)
    (taken : ∀ request, takesOn? m s = some request → P request.call) : Carries P (s.after m) := by
  by_cases refused : ∃ request caller, m.step = .request request caller ∧
      takesOn? m s ≠ some request
  · obtain ⟨request, caller, step, untaken⟩ := refused
    rw [after_of_untaken step untaken]
    exact carries
  · apply carries.after_of_asked plain
    intro request caller step
    apply taken
    by_contra untaken
    exact refused ⟨request, caller, step, untaken⟩

/-- What holds of all that a session carries at any moment of a run is what holds of the requests
that it takes on. -/
theorem carries_run_iff (plain : ∀ call, call.topic? = none → P call) (moves : List Move)
    (carries : Carries P s) :
    (∀ before, before <+: moves → Carries P (run before s)) ↔
      ∀ request ∈ takenOn moves s, P request.call := by
  induction moves generalizing s with
  | nil =>
    refine iff_of_true (fun before early => ?_) fun request member => absurd member List.not_mem_nil
    rw [List.prefix_nil.mp early]
    exact carries
  | cons m rest ih =>
    constructor
    · intro always request member
      have here : Carries P (s.after m) := always [m] (List.prefix_append [m] rest)
      rcases List.mem_append.mp member with first | later
      · exact here.of_taken (Option.mem_toList.mp first)
      · exact (ih here).mp (fun before early =>
          always (m :: before) (List.cons_prefix_cons.mpr ⟨rfl, early⟩)) request later
    · intro taken before early
      have here : Carries P (s.after m) := carries.after plain fun request first =>
        taken request (List.mem_append_left _ (Option.mem_toList.mpr first))
      cases before with
      | nil => exact carries
      | cons first before =>
        obtain ⟨rfl, onward⟩ := List.cons_prefix_cons.mp early
        exact (ih here).mpr (fun request later => taken request (List.mem_append_right _ later))
          before onward

end Session

end DurableMqtt
