import DurableMqtt.Proofs.Run.Leaving
import DurableMqtt.Proofs.Run.Order

/-!
Where the entries of the table, the parked requests and the subscriptions of a session come from.

Whoever is told of an acknowledgment was brought by some call, and is passed on from the queue to
the table, from the table to the registry and back. Each step is analysed here once for all that it
passes on.
-/

namespace DurableMqtt

/-- Who hears of a request that is made in a phase. A request that is parked keeps no waiting
caller. -/
def Caller.hears (caller : Caller) (phase : Phase) : Option Listener :=
  if phase.isRecovering then caller.listener else caller.responder.map Responder.listener

def PendingEntry.listener (e : PendingEntry) : Option Listener :=
  e.responder.map Responder.listener

namespace Session

/-- Who may come to hear of an acknowledgment because of a step, and of the acknowledgment of which
request. A subscription is also heard of each time that it is restored. -/
def brought (m : Move) (s : Session) : List (Option Nat × Option Listener) :=
  match m.step with
  | .connect caller | .disconnect caller => [(none, caller.responder.map Responder.listener)]
  | .request request caller =>
    let heard := caller.hears s.phase
    (some s.nextTicket, heard) ::
      if request.kind = .subscribe then [(none, caller.listener), (none, heard)] else []
  | .supervise _ => [(none, none)]
  | _ => []

def broughtAlong : List Move → Session → List (Option Nat × Option Listener)
  | [], _ => []
  | m :: rest, s => brought m s ++ broughtAlong rest (s.after m)

def Untaken (effects : List Effect) : Prop :=
  ∀ e ∈ effects, e.takes? = none ∧ e.packet? = none

def IsAnswer (m : Move) (s : Session) (entry : RequestId × PendingEntry) : Prop :=
  (∀ e, PendingTable.asPacket? (entry.1, e) = none) ∧
    entry.2 = { responder := entry.2.responder } ∧ (none, entry.2.listener) ∈ brought m s

/-- What a step does to the table: it takes entries out and adds answers to CONNECT or DISCONNECT,
or it adds the entry of something that the engine takes under a number. -/
inductive Tabled (m : Move) (s t : Session) : Prop where
  | kept (untaken : Untaken (since s t))
      (entries : ∀ entry ∈ t.pending.entries, entry ∈ s.pending.entries ∨ IsAnswer m s entry)
  | restored (record : Subscription) (unsent : record ∈ s.unsent) (number : UInt32)
      (effects : since s t = [.called (.subscribe record.topic record.qos) (.ok number) none])
      (pending : t.pending = s.pending.insert (.packet number) (restoring record))
  | replayed (a : Accepted) (rest : List Accepted) (head : s.queue.items = a :: rest)
      (number : UInt32)
      (effects : since s t = [.called a.request.call (.ok number) (some a.ticket)])
      (pending : t.pending =
        s.pending.insert (.packet number) (entryOf a (a.request.onAck.map .pooled)))
  | asked (request : Request) (caller : Caller) (step : m.step = .request request caller)
      (ready : s.phase.isRecovering = false) (a : Accepted)
      (same : a = ⟨s.nextTicket, request.withListener caller.listener⟩) (number : UInt32)
      (effects : since s t = [.called a.request.call (.ok number) (some a.ticket)])
      (pending : t.pending = s.pending.insert (.packet number) (entryOf a caller.responder))

inductive Parks (m : Move) (s : Session) (a : Accepted) : Prop where
  | before (parked : a ∈ s.queue.items)
  | asked (request : Request) (caller : Caller) (step : m.step = .request request caller)
      (recovering : s.phase.isRecovering = true)
      (same : a = ⟨s.nextTicket, request.withListener caller.listener⟩)
  | replayed (entry : RequestId × PendingEntry) (stood : entry ∈ s.pending.entries)
      (again : entry.2.replayed = some a)

structure Passes (m : Move) (s t : Session) : Prop where
  table : Tabled m s t
  parks : ∀ a ∈ t.queue.items, Parks m s a
  grants : ∀ record ∈ t.registry.records, record ∈ s.registry.records ∨
    ∃ entry ∈ s.pending.entries, entry.2.effect = .subscribe record
  unsent : ∀ record ∈ t.unsent, record ∈ s.unsent ∨ record ∈ s.registry.records

variable {s t : Session} {m : Move} {engine : Engine} {now : Instant} {effects : List Effect}

/-! ### The table -/

namespace Untaken

theorem nil : Untaken [] := fun _ member => absurd member List.not_mem_nil

theorem single {e : Effect} (untaken : e.takes? = none) (unnumbered : e.packet? = none) :
    Untaken [e] := by
  intro other member
  rw [List.mem_singleton.mp member]
  exact ⟨untaken, unnumbered⟩

theorem append {first second : List Effect} (early : Untaken first) (late : Untaken second) :
    Untaken (first ++ second) := fun e member => (List.mem_append.mp member).elim (early e) (late e)

theorem of_uncalled (uncalled : Uncalled effects) : Untaken effects := by
  intro e member
  have quiet := uncalled e member
  cases e with
  | called call answer ticket => exact absurd quiet.symm Bool.false_ne_true
  | _ => exact ⟨rfl, rfl⟩

end Untaken

theorem mem_insert {table : PendingTable} {id : RequestId} {e : PendingEntry}
    {entry : RequestId × PendingEntry} (member : entry ∈ (table.insert id e).entries) :
    entry ∈ table.entries ∨ entry = (id, e) :=
  (List.mem_append.mp member).imp List.mem_of_mem_filter List.mem_singleton.mp

theorem Tabled.fewer (appended : t.effects = s.effects ++ effects) (untaken : Untaken effects)
    (entries : t.pending.entries ⊆ s.pending.entries) : Tabled m s t := by
  refine .kept ?_ fun entry member => .inl (entries member)
  rw [since_of_append appended]
  exact untaken

theorem Tabled.same (effects : t.effects = s.effects) (pending : t.pending = s.pending) :
    Tabled m s t := by
  refine .fewer (effects.trans (List.append_nil _).symm) .nil ?_
  rw [pending]
  exact List.Subset.refl _

theorem Tabled.answer {id : RequestId} {responder : Option Responder}
    (appended : t.effects = s.effects ++ effects) (untaken : Untaken effects)
    (pending : t.pending = s.pending.insert id { responder })
    (other : ∀ e, PendingTable.asPacket? (id, e) = none)
    (given : (none, responder.map Responder.listener) ∈ brought m s) : Tabled m s t := by
  refine .kept ?_ fun entry member => ?_
  · rw [since_of_append appended]
    exact untaken
  · rw [pending] at member
    rcases mem_insert member with old | new
    · exact .inl old
    · rw [new]
      exact .inr ⟨other, rfl, given⟩

theorem tabled_connect (caller : Caller) :
    Tabled ⟨.connect caller, engine⟩ s (s.connect engine caller).2 := by
  have given : (none, caller.responder.map Responder.listener) ∈
      brought ⟨.connect caller, engine⟩ s := List.mem_singleton_self _
  rw [connect_eq]
  split
  · split
    · exact .answer rfl (.single rfl rfl) rfl (fun _ => rfl) given
    · exact .fewer rfl (.single rfl rfl) (List.Subset.refl _)
  · exact .same rfl rfl

theorem tabled_disconnect (caller : Caller) :
    Tabled ⟨.disconnect caller, engine⟩ s (s.disconnect engine caller).2 := by
  have given : (none, caller.responder.map Responder.listener) ∈
      brought ⟨.disconnect caller, engine⟩ s := List.mem_singleton_self _
  rw [disconnect_eq]
  simp only
  split
  · split
    · exact .answer rfl (.single rfl rfl) rfl (fun _ => rfl) given
    · exact .answer rfl (.single rfl rfl) rfl (fun _ => rfl) given
  · exact .answer (List.append_nil _).symm .nil rfl (fun _ => rfl) given

theorem tabled_request (request : Request) (caller : Caller) :
    Tabled ⟨.request request caller, engine⟩ s (s.route engine request caller).2 := by
  have routed : Routed engine _ _ s (s.route engine request caller) := route_routed request caller s
  generalize s.route engine request caller = result at routed ⊢
  cases routed with
  | sent number taken ready =>
    exact .asked request caller rfl ready _ rfl number (since_of_append rfl) rfl
  | refused error cause refused ready => exact .fewer rfl (.single rfl rfl) (List.Subset.refl _)
  | _ => exact .same rfl rfl

theorem tabled_tick : Tabled ⟨.tick now, engine⟩ s (s.tick engine now) := by
  have paced : Paced engine s (s.tick engine now) := tick_paced s
  generalize s.tick engine now = t at paced ⊢
  cases paced with
  | rested phase consumer backoff onward => exact .same rfl rfl
  | restored record number phase consumer onward taken unsent =>
    exact .restored record unsent number (since_of_append rfl) rfl
  | notRestored record cause phase consumer onward =>
    exact .fewer rfl (.single rfl rfl) (List.Subset.refl _)
  | replayed a rest number consumer onward head taken =>
    exact .replayed a rest head number (since_of_append rfl) rfl
  | putBack a rest cause consumer onward head refused transient =>
    exact .fewer rfl (.single rfl rfl) (List.Subset.refl _)
  | discarded a rest cause consumer onward head refused permanent =>
    have telling := told_uncalled .queued (a.request.onAck.map .pooled) .discarded
    exact .fewer (List.append_assoc _ _ _)
      (.append (.single rfl rfl) (.of_uncalled telling)) (List.Subset.refl _)

theorem tabled_supervise : Tabled ⟨.supervise now, engine⟩ s (s.supervise engine now) := by
  have supervised : Supervised engine s (s.supervise engine now) := supervise_supervised s
  generalize s.supervise engine now = t at supervised ⊢
  cases supervised with
  | connected slept number attempting opened taken =>
    have given : (none, none) ∈ brought ⟨.supervise now, engine⟩ s := List.mem_singleton_self _
    exact .answer rfl (.single rfl rfl) rfl (fun _ => rfl) given
  | refused slept cause attempting opened answer =>
    exact .fewer rfl (.single rfl rfl) (List.Subset.refl _)
  | _ => exact .same rfl rfl

theorem erase_subset (table : PendingTable) (id : RequestId) :
    (table.erase id).entries ⊆ table.entries := List.filter_sublist.subset

theorem Handled.entries {e : Event} (handled : Handled now e s t) :
    t.pending.entries ⊆ s.pending.entries := by
  cases handled with
  | hungUp code kind t hungUp =>
    cases hungUp with
    | closed phase => exact List.nil_subset _
    | lost established => exact List.filter_sublist.subset
    | _ => exact List.Subset.refl _
  | unknown ack of unknown => exact List.Subset.refl _
  | delivered message kind consumer effects same hooks => exact List.Subset.refl _
  | _ => exact erase_subset _ _

theorem tabled_dispatch : Tabled ⟨.dispatch now, engine⟩ s (s.dispatch engine now) := by
  have dispatched : Dispatched now s (s.dispatch engine now) := dispatch_dispatched s
  generalize s.dispatch engine now = t at dispatched ⊢
  cases dispatched with
  | idle none => exact .same rfl rfl
  | handled e next t handled =>
    obtain ⟨effects, appended, uncalled⟩ := handled.uncalled
    exact .fewer appended (.of_uncalled uncalled) handled.entries

theorem tabled (m : Move) (s : Session) : Tabled m s (s.after m) := by
  obtain ⟨step, engine⟩ := m
  cases step with
  | connect caller => exact tabled_connect caller
  | disconnect caller => exact tabled_disconnect caller
  | request request caller => exact tabled_request request caller
  | dispatch now => exact tabled_dispatch
  | tick now => exact tabled_tick
  | supervise now => exact tabled_supervise
  | adjust adjustment =>
    obtain ⟨settings, hooks, backoff, adjusted⟩ := adjust_eq adjustment s
    change Tabled _ s (s.adjust adjustment)
    rw [adjusted]
    exact .same rfl rfl
  | _ => exact .same rfl rfl

/-! ### The queue -/

theorem parks_request (request : Request) (caller : Caller) :
    ∀ a ∈ (s.route engine request caller).2.queue.items,
      Parks ⟨.request request caller, engine⟩ s a := by
  have routed : Routed engine _ _ s (s.route engine request caller) := route_routed request caller s
  have placed (items : List Accepted) (subset : items ⊆ s.queue.items)
      (recovering : s.phase.isRecovering = true) :
      ∀ a ∈ items ++ [⟨s.nextTicket, request.withListener caller.listener⟩],
        Parks ⟨.request request caller, engine⟩ s a := by
    intro a member
    rcases List.mem_append.mp member with old | new
    · exact .before (subset old)
    · exact .asked request caller rfl recovering (List.mem_singleton.mp new)
  generalize s.route engine request caller = result at routed ⊢
  cases routed with
  | parked recovering => exact placed _ (List.Subset.refl _) recovering
  | evicting cause limit capacity full policy recovering =>
    exact placed _ (List.drop_subset 1 _) recovering
  | _ => exact fun a member => .before member

theorem parks_tick : ∀ a ∈ (s.tick engine now).queue.items, Parks ⟨.tick now, engine⟩ s a := by
  have paced : Paced engine s (s.tick engine now) := tick_paced s
  have shorter {first : Accepted} {rest : List Accepted} (head : s.queue.items = first :: rest) :
      ∀ a ∈ rest, Parks ⟨.tick now, engine⟩ s a := by
    intro a member
    refine .before ?_
    rw [head]
    exact List.mem_cons_of_mem first member
  generalize s.tick engine now = t at paced ⊢
  cases paced with
  | replayed a rest number consumer onward head taken => exact shorter head
  | discarded a rest cause consumer onward head refused permanent => exact shorter head
  | _ => exact fun a member => .before member

theorem parks_dispatch :
    ∀ a ∈ (s.dispatch engine now).queue.items, Parks ⟨.dispatch now, engine⟩ s a := by
  have dispatched : Dispatched now s (s.dispatch engine now) := dispatch_dispatched s
  generalize s.dispatch engine now = t at dispatched ⊢
  cases dispatched with
  | idle none => exact fun a member => .before member
  | handled e next t handled =>
    cases handled with
    | hungUp code kind t hungUp =>
      cases hungUp with
      | lost established =>
        intro a member
        rcases List.mem_append.mp member with restored | old
        · obtain ⟨⟨number, entry⟩, left, again⟩ := List.mem_filterMap.mp restored
          have waiting := (List.mem_filter.mp left).1
          have inFlight : (number, entry) ∈ s.pending.inFlight := (List.mem_filter.mp waiting).1
          exact .replayed (.packet number, entry) (PendingTable.mem_inFlight.mp inFlight) again
        · exact .before old
      | _ => exact fun a member => .before member
    | _ => exact fun a member => .before member

theorem untouched (m : Move) (s : Session) (others : m.isConsumers = false)
    (unasked : ∀ request caller, m.step ≠ .request request caller)
    (unconfigured : ∀ capacity policy, m.step ≠ .configureQueue capacity policy) :
    (s.after m).queue = s.queue ∧ (s.after m).registry = s.registry := by
  obtain ⟨step, engine⟩ := m
  cases step with
  | connect caller =>
    change (s.connect engine caller).2.queue = _ ∧ (s.connect engine caller).2.registry = _
    rw [connect_eq]
    split
    · split <;> exact ⟨rfl, rfl⟩
    · exact ⟨rfl, rfl⟩
  | disconnect caller =>
    change (s.disconnect engine caller).2.queue = _ ∧ (s.disconnect engine caller).2.registry = _
    rw [disconnect_eq]
    simp only
    split
    · split <;> exact ⟨rfl, rfl⟩
    · exact ⟨rfl, rfl⟩
  | supervise now =>
    have supervised : Supervised engine s (s.supervise engine now) := supervise_supervised s
    change (s.supervise engine now).queue = _ ∧ (s.supervise engine now).registry = _
    generalize s.supervise engine now = t at supervised ⊢
    cases supervised <;> exact ⟨rfl, rfl⟩
  | adjust adjustment =>
    obtain ⟨settings, hooks, backoff, adjusted⟩ := adjust_eq adjustment s
    change (s.adjust adjustment).queue = _ ∧ (s.adjust adjustment).registry = _
    rw [adjusted]
    exact ⟨rfl, rfl⟩
  | report report => exact ⟨rfl, rfl⟩
  | expire timer => exact ⟨rfl, rfl⟩
  | request request caller => exact absurd rfl (unasked request caller)
  | configureQueue capacity policy => exact absurd rfl (unconfigured capacity policy)
  | dispatch now => exact absurd others Bool.false_ne_true.symm
  | tick now => exact absurd others Bool.false_ne_true.symm

theorem parks (m : Move) (s : Session) : ∀ a ∈ (s.after m).queue.items, Parks m s a := by
  have aside := untouched m s
  obtain ⟨step, engine⟩ := m
  cases step with
  | request request caller => exact parks_request request caller
  | dispatch now => exact parks_dispatch
  | tick now => exact parks_tick
  | configureQueue capacity policy =>
    intro a member
    exact .before ((OfflineQueue.trim_sublist _ policy s.queue.items).subset member)
  | _ =>
    intro a member
    rw [(aside rfl (fun _ _ => Step.noConfusion) fun _ _ => Step.noConfusion).1] at member
    exact .before member

/-! ### The subscriptions -/

theorem mem_place {record other : Subscription} {records : List Subscription}
    (member : record ∈ Registry.place other records) : record ∈ records ∨ record = other := by
  induction records with
  | nil => exact .inr (List.mem_singleton.mp member)
  | cons first rest ih =>
    unfold Registry.place at member
    split at member
    · exact (List.mem_cons.mp member).symm.imp_left (List.mem_cons_of_mem first)
    · rcases List.mem_cons.mp member with same | later
      · rw [same]
        exact .inl List.mem_cons_self
      · exact (ih later).imp_left (List.mem_cons_of_mem first)

theorem mem_acknowledged {record : Subscription} {registry : Registry} {effect : RegistryEffect}
    {ack : Ack} (member : record ∈ (registry.acknowledged effect ack).records) :
    record ∈ registry.records ∨ effect = .subscribe record := by
  unfold Registry.acknowledged at member
  split at member
  · exact (mem_place member).imp_right fun same => by rw [same]
  · exact .inl (List.mem_of_mem_filter member)
  · exact .inl member

def settledBy? (e : Event) (s : Session) : Option (PendingEntry × Ack) :=
  e.ack?.bind fun ack => (s.pending.find? e.id).map fun entry => (entry, ack)

theorem Handled.registry {e : Event} (handled : Handled now e s t) :
    t.registry = (settledBy? e s).elim s.registry
      fun (entry, ack) => s.registry.acknowledged entry.effect ack := by
  have aside (other : e.ack? = none) : settledBy? e s = none := by
    rw [settledBy?, other, Option.bind_none]
  cases handled with
  | acknowledged ack of entry found consumer kept => simp [settledBy?, of, found]
  | unknown ack of unknown => simp [settledBy?, of, unknown]
  | welcomed kind | turnedAway code kind | unheeded code kind | delivered message kind =>
    simp [aside (by simp [Event.ack?, kind])]
  | hungUp code kind t hungUp =>
    rw [aside (by simp [Event.ack?, kind])]
    cases hungUp <;> rfl

theorem registry_after (m : Move) (s : Session) :
    (s.after m).registry = ((dispatched? m s).bind (settledBy? · s)).elim s.registry
      fun (entry, ack) => s.registry.acknowledged entry.effect ack := by
  have aside := untouched m s
  obtain ⟨step, engine⟩ := m
  cases step with
  | dispatch now =>
    have dispatched : Dispatched now s (s.dispatch engine now) := dispatch_dispatched s
    change (s.dispatch engine now).registry = ((s.nextEvent?).bind (settledBy? · s)).elim _ _
    generalize s.dispatch engine now = t at dispatched ⊢
    cases dispatched with
    | idle none =>
      rw [none]
      rfl
    | handled e next t handled =>
      rw [next]
      exact handled.registry
  | request request caller =>
    have routed : Routed engine _ _ s (s.route engine request caller) :=
      route_routed request caller s
    change (s.route engine request caller).2.registry = s.registry
    generalize s.route engine request caller = result at routed ⊢
    cases routed <;> rfl
  | tick now =>
    have paced : Paced engine s (s.tick engine now) := tick_paced s
    change (s.tick engine now).registry = s.registry
    generalize s.tick engine now = t at paced ⊢
    cases paced <;> rfl
  | configureQueue capacity policy => rfl
  | _ => exact (aside rfl (fun _ _ => Step.noConfusion) fun _ _ => Step.noConfusion).2

theorem grants (m : Move) (s : Session) :
    ∀ record ∈ (s.after m).registry.records, record ∈ s.registry.records ∨
      ∃ entry ∈ s.pending.entries, entry.2.effect = .subscribe record := by
  intro record member
  rw [registry_after] at member
  cases settled : (dispatched? m s).bind (settledBy? · s) with
  | none =>
    rw [settled] at member
    exact .inl member
  | some taken =>
    rw [settled] at member
    obtain ⟨e, -, taking⟩ := Option.bind_eq_some_iff.mp settled
    obtain ⟨ack, -, taking⟩ := Option.bind_eq_some_iff.mp taking
    obtain ⟨entry, found, rfl⟩ := Option.map_eq_some_iff.mp taking
    exact (mem_acknowledged member).imp_right fun grants =>
      ⟨(e.id, entry), PendingTable.mem_of_find? found, grants⟩

theorem unsent_of_recovery (same : t.consumer.recovery = s.consumer.recovery) :
    t.unsent = s.unsent := by
  unfold unsent
  rw [same]

theorem unsent_of_none (none : s.consumer.recovery = none) : s.unsent = [] := by
  unfold unsent
  rw [none]

theorem unsent_enterDraining : (s.enterDraining now).unsent = [] := by
  rw [enterDraining_eq]
  split <;> rfl

theorem unsent_scheduleTick (interval : Duration) :
    (s.scheduleTick now interval).unsent = s.unsent := by
  unfold scheduleTick
  cases stage : s.consumer.recovery with
  | none => rfl
  | some r =>
    simp only
    cases now.after? interval with
    | none => exact unsent_of_recovery rfl
    | some nextTick =>
      obtain ⟨kind, due⟩ := r
      simp only [withRecovery, unsent, stage]
      cases kind <;> rfl

theorem unsent_settleTick (interval : Duration) :
    (s.settleTick now interval).unsent <:+ s.unsent := by
  unfold settleTick
  simp only
  split
  · rw [unsent_scheduleTick]
  · split
    · rw [unsent_enterDraining]
      exact List.nil_suffix
    · rw [unsent_scheduleTick]

theorem unsent_replayHead (a : Accepted) : (s.replayHead engine a).unsent = s.unsent := by
  apply unsent_of_recovery
  simp only [replayHead, issue_eq]
  cases engine a.request.call with
  | ok number => rfl
  | error cause =>
    simp only [respond_eq]
    split <;> rfl

theorem unsent_resubscribeNext (r : Recovery) (held : s.consumer.recovery = some r) :
    (s.resubscribeNext engine r).unsent <:+ s.unsent := by
  unfold resubscribeNext
  split
  next record rest outstanding stage =>
    have next : s.unsent = record :: rest := by
      obtain ⟨stage', nextTick⟩ := r
      subst stage
      unfold unsent
      rw [held]
    rw [next]
    exact List.suffix_cons _ _
  next => exact List.suffix_rfl

theorem unsent_tick : (s.tick engine now).unsent <:+ s.unsent := by
  rw [tick_eq]
  split
  · unfold paceNow
    split
    · split
      · unfold drainOne
        split
        · rw [unsent_of_none rfl]
          exact List.nil_suffix
        next a queue popped =>
          rw [unsent_scheduleTick, unsent_replayHead]
          exact List.suffix_rfl
      · unfold resubscribeOne
        cases held : s.consumer.recovery with
        | none => exact List.suffix_rfl
        | some r =>
          change ((s.resubscribeNext engine r).settleTick now _).unsent <:+ s.unsent
          exact (unsent_settleTick _).trans (unsent_resubscribeNext r held)
      · exact List.suffix_rfl
    · rw [unsent_of_none rfl]
      exact List.nil_suffix
  · exact List.suffix_rfl

theorem unsent_settleResubscribe : (s.settleResubscribe now).unsent <:+ s.unsent := by
  unfold settleResubscribe
  cases held : s.consumer.recovery with
  | none => exact List.suffix_rfl
  | some r =>
    simp only
    split
    · rw [unsent_enterDraining]
      exact List.nil_suffix
    · have same : (s.withRecovery (some (settled r))).unsent = s.unsent := by
        obtain ⟨stage, nextTick⟩ := r
        unfold unsent
        rw [held]
        cases stage <;> rfl
      rw [same]

theorem unsent_acknowledge (id : RequestId) (ack : Ack) :
    (s.acknowledge now id ack).unsent <:+ s.unsent := by
  unfold acknowledge
  split
  · exact List.suffix_rfl
  next entry pending taken =>
    simp only [respond_eq]
    split
    · exact unsent_settleResubscribe (s := { s with
        pending, registry := s.registry.acknowledged entry.effect ack })
    · exact List.suffix_rfl

/-- What is still to be sent again gets less, until a session is taken up with all that is
subscribed by then. -/
theorem unsent_handle (now : Instant) (e : Event) :
    if e.kind = .connack 0 ∧ s.phase = .connecting then
      (s.handle now e).unsent = s.registry.records
    else (s.handle now e).unsent <:+ s.unsent := by
  have gone {t : Session} (none : t.consumer.recovery = none) : t.unsent <:+ s.unsent := by
    rw [unsent_of_none none]
    exact List.nil_suffix
  have handled := handle_handled now e s
  generalize handledTo : s.handle now e = t at handled
  cases handled with
  | welcomed kind connecting =>
    rw [if_pos ⟨kind, connecting⟩]
    unfold unsent
    cases records : s.registry.records with
    | nil => rfl
    | cons record rest => rfl
  | turnedAway code kind refused connecting =>
    rw [if_neg (by simp [kind, refused])]
    exact gone rfl
  | unheeded code kind elsewhere =>
    rw [if_neg (by simp [elsewhere])]
    exact gone rfl
  | hungUp code kind t hungUp =>
    rw [if_neg (by simp [kind])]
    cases hungUp <;> exact gone rfl
  | unknown ack of unknown =>
    rw [if_neg (by rintro ⟨kind, -⟩; simp [Event.ack?, kind] at of)]
  | delivered message kind consumer effects same hooks =>
    rw [if_neg (by simp [kind]), unsent_of_recovery same]
  | acknowledged ack of entry found consumer kept =>
    have acknowledges : s.handle now e = s.acknowledge now e.id ack := by
      unfold Event.ack? at of
      unfold handle
      split at of
      next kind => rw [kind, ← Option.some.inj of]
      next answer kind => rw [kind, ← Option.some.inj of]
      next kind => rw [kind, ← Option.some.inj of]
      next => exact absurd of.symm (Option.some_ne_none ack)
    rw [if_neg (by rintro ⟨kind, -⟩; simp [Event.ack?, kind] at of), ← handledTo, acknowledges]
    exact unsent_acknowledge e.id ack

/-- Whether a step takes up an accepted session, and with it the subscriptions as they are. -/
def welcomes (m : Move) (s : Session) : Bool := accepts m s && s.phase == .connecting

theorem unsent_after (m : Move) (s : Session) :
    if welcomes m s then (s.after m).unsent = s.registry.records
    else (s.after m).unsent <:+ s.unsent := by
  have aside (others : m.isConsumers = false) (other : dispatched? m s = none) :
      if welcomes m s then (s.after m).unsent = s.registry.records
      else (s.after m).unsent <:+ s.unsent := by
    rw [unsent_of_recovery (congrArg Consumer.recovery (after_consumer m others)), welcomes,
      accepts, other]
    exact List.suffix_rfl
  obtain ⟨step, engine⟩ := m
  cases step with
  | dispatch now =>
    change if welcomes _ s then (s.dispatch engine now).unsent = s.registry.records
      else (s.dispatch engine now).unsent <:+ s.unsent
    have seen : dispatched? ⟨.dispatch now, engine⟩ s = s.nextEvent? := rfl
    cases next : s.nextEvent? with
    | none =>
      simp only [Session.dispatch, next, welcomes, accepts, seen]
      exact List.suffix_rfl
    | some e =>
      rw [dispatch_eq s next]
      have same : ({ s with events := s.events.next.2 } : Session).unsent = s.unsent :=
        unsent_of_recovery rfl
      have handled := unsent_handle (s := { s with events := s.events.next.2 }) now e
      rw [same] at handled
      simpa [welcomes, accepts, seen, next] using handled
  | tick now => exact unsent_tick
  | _ => exact aside rfl rfl

theorem passes (m : Move) (s : Session) : Passes m s (s.after m) where
  table := tabled m s
  parks := parks m s
  grants := grants m s
  unsent record member := by
    have unsent := unsent_after m s
    split at unsent
    · exact .inr (unsent ▸ member)
    · exact .inl (unsent.subset member)

end Session

end DurableMqtt
