import DurableMqtt.Proofs.Run.Conservation
import DurableMqtt.Proofs.Run.Drained
import DurableMqtt.Proofs.Run.Passage

/-!
The order in which requests reach the engine.

A session accepts requests one after the other and sends them in that order, also those that it
sends again because their session was lost. What carries the order is one line of tickets: those
that the engine has taken on this session, then those that are parked. What is in flight is a part
of the former, so a lost session puts back what stands ahead of everything parked.
-/

namespace DurableMqtt

def Effect.takes? : Effect → Option Nat
  | called _ (.ok _) ticket => ticket
  | _ => none

theorem filterMap_some_sublist {α β : Type} (f : α → Option β) (items : List α) :
    ((items.filterMap f).map some).Sublist (items.map f) := by
  induction items with
  | nil => exact List.Sublist.slnil
  | cons item rest ih =>
    cases found : f item with
    | none =>
      rw [List.filterMap_cons_none found, List.map_cons]
      exact ih.cons _
    | some b =>
      rw [List.filterMap_cons_some found, List.map_cons, List.map_cons, found]
      exact ih.cons_cons _

namespace Session

def numbers (s : Session) : List UInt32 := s.effects.filterMap Effect.packet?

/-- The tickets of the requests that a lost session would leave unanswered, by number. -/
def unansweredTickets (s : Session) : List (Option Nat) := s.unanswered.map (·.2.ticket?)

def takenBy (m : Move) (s : Session) : List Nat := (since s (s.after m)).filterMap Effect.takes?

def takenAlong (moves : List Move) (s : Session) : List Nat :=
  (since s (run moves s)).filterMap Effect.takes?

def loses (m : Move) (s : Session) : Bool :=
  (s.phase.isConnected || s.phase == .abnormalDisconnect) && hangsUp m s

def losesAlong : List Move → Session → Bool
  | [], _ => false
  | m :: rest, s => loses m s || losesAlong rest (s.after m)

/-- The engine takes nothing while no session is wanted. -/
def RefusesAway (m : Move) (s : Session) : Prop :=
  s.phase = .idle ∨ s.phase = .userDisconnect → (since s (s.after m)).filterMap Effect.packet? = []

instance (m : Move) (s : Session) : Decidable (RefusesAway m s) :=
  inferInstanceAs (Decidable (_ → _))

def RefusesAlong : List Move → Session → Prop
  | [], _ => True
  | m :: rest, s => RefusesAway m s ∧ RefusesAlong rest (s.after m)

instance RefusesAlong.decidable : (moves : List Move) → (s : Session) →
    Decidable (RefusesAlong moves s)
  | [], _ => .isTrue trivial
  | m :: rest, s =>
    have := RefusesAlong.decidable rest (s.after m)
    inferInstanceAs (Decidable (RefusesAway m s ∧ RefusesAlong rest (s.after m)))

theorem refusesAlong_append (first second : List Move) (s : Session) :
    RefusesAlong (first ++ second) s ↔ RefusesAlong first s ∧ RefusesAlong second (run first s) := by
  induction first generalizing s with
  | nil => exact ⟨fun later => ⟨trivial, later⟩, And.right⟩
  | cons m rest ih =>
    simp only [List.cons_append, RefusesAlong, run]
    rw [ih, and_assoc]

variable {s t : Session} {m : Move} {engine : Engine} {now : Instant} {effects : List Effect}

/-! ### One step -/

/-- The number that a step gives is higher than those in flight. -/
def Ascends (m : Move) (s : Session) : Prop :=
  ∀ number ∈ (since s (s.after m)).filterMap Effect.packet?, ∀ entry ∈ s.pending.inFlight,
    entry.1 < number

theorem Ascends.fresh (ascends : Ascends m s) : Fresh m s := by
  intro number given
  cases found : s.pending.find? (.packet number) with
  | none => rfl
  | some e =>
    have stored : (number, e) ∈ s.pending.inFlight :=
      PendingTable.mem_inFlight.mpr (PendingTable.mem_of_find? found)
    exact absurd (ascends number given (number, e) stored) (UInt32.lt_irrefl number)

inductive Shifted (m : Move) (s t : Session) : Prop where
  /-- Requests go, and none comes. -/
  | fewer (kept : loses m s = false) (queued : t.queuedTickets.Sublist s.queuedTickets)
      (unanswered : t.unansweredTickets.Sublist s.unansweredTickets)
      (issued : t.nextTicket = s.nextTicket) (taken : takenBy m s = [])
  /-- A new request is parked, possibly in the place of the oldest. -/
  | parked (kept : loses m s = false) (recovering : s.phase.isRecovering = true)
      (queued : t.queuedTickets.Sublist (s.queuedTickets ++ [s.nextTicket]))
      (unanswered : t.unansweredTickets = s.unansweredTickets)
      (issued : t.nextTicket = s.nextTicket + 1) (taken : takenBy m s = [])
  /-- A new request is sent. -/
  | sent (kept : loses m s = false) (ready : s.phase.isRecovering = false) (number : UInt32)
      (given : number ∈ (since s t).filterMap Effect.packet?)
      (queued : t.queuedTickets = s.queuedTickets)
      (unanswered : t.unansweredTickets = s.unansweredTickets ++ [some s.nextTicket])
      (issued : t.nextTicket = s.nextTicket + 1) (taken : takenBy m s = [s.nextTicket])
  /-- The oldest of the parked requests is sent. -/
  | replayed (kept : loses m s = false) (ticket : Nat)
      (queued : s.queuedTickets = ticket :: t.queuedTickets)
      (unanswered : t.unansweredTickets = s.unansweredTickets ++ [some ticket])
      (issued : t.nextTicket = s.nextTicket) (taken : takenBy m s = [ticket])
  /-- What is in flight goes back ahead of what is parked. -/
  | lost (loses : loses m s = true) (restored : List Nat)
      (fromFlight : (restored.map some).Sublist s.unansweredTickets)
      (all : s.queue.isDisabled = false →
        restored = s.unanswered.filterMap (·.2.ticket?))
      (queued : t.queuedTickets = restored ++ s.queuedTickets)
      (unanswered : t.unansweredTickets = []) (issued : t.nextTicket = s.nextTicket)
      (taken : takenBy m s = [])

/-- What a step does to the order of requests. -/
structure Lined (m : Move) (s t : Session) : Prop where
  /-- A request in flight was so before, or is sent now. -/
  numbers : ∀ entry ∈ t.pending.inFlight,
    entry ∈ s.pending.inFlight ∨ entry.1 ∈ (since s t).filterMap Effect.packet?
  shifted : Shifted m s t

theorem takenBy_of_append (after : s.after m = t) (appended : t.effects = s.effects ++ effects) :
    takenBy m s = effects.filterMap Effect.takes? := by
  rw [takenBy, after, since_of_append appended]

theorem untaken_of_uncalled (uncalled : Uncalled effects) : effects.filterMap Effect.takes? = [] := by
  refine List.filterMap_eq_nil_iff.mpr fun e member => ?_
  have quiet := uncalled e member
  cases e with
  | called call answer ticket => exact absurd quiet.symm Bool.false_ne_true
  | _ => rfl

theorem unansweredTickets_sublist (inFlight : t.pending.inFlight.Sublist s.pending.inFlight) :
    t.unansweredTickets.Sublist s.unansweredTickets := (inFlight.filter _).map _

theorem unansweredTickets_of_inFlight {number : UInt32} {e : PendingEntry}
    (inFlight : t.pending.inFlight = s.pending.inFlight ++ [(number, e)]) :
    t.unansweredTickets =
      s.unansweredTickets ++ if e.resubscribe then [] else [e.ticket?] := by
  unfold unansweredTickets unanswered
  rw [inFlight, List.filter_append, List.map_append]
  cases resubscribe : e.resubscribe <;> simp [resubscribe]

theorem Lined.fewer (after : s.after m = t) (appended : t.effects = s.effects ++ effects)
    (untaken : effects.filterMap Effect.takes? = []) (kept : loses m s = false)
    (queued : t.queuedTickets.Sublist s.queuedTickets)
    (inFlight : t.pending.inFlight.Sublist s.pending.inFlight)
    (issued : t.nextTicket = s.nextTicket) : Lined m s t where
  numbers := fun _ member => .inl (inFlight.subset member)
  shifted := .fewer kept queued (unansweredTickets_sublist inFlight) issued
    ((takenBy_of_append after appended).trans untaken)

theorem Lined.still (after : s.after m = t) (appended : t.effects = s.effects ++ effects)
    (untaken : effects.filterMap Effect.takes? = []) (kept : loses m s = false)
    (queue : t.queue = s.queue) (inFlight : t.pending.inFlight = s.pending.inFlight)
    (issued : t.nextTicket = s.nextTicket) : Lined m s t := by
  refine .fewer after appended untaken kept ?_ ?_ issued
  · rw [queuedTickets, queue, queuedTickets]
  · rw [inFlight]

theorem loses_of_other (other : ∀ now, m.step ≠ .dispatch now) : loses m s = false := by
  unfold loses hangsUp dispatched?
  cases step : m.step with
  | dispatch now => exact absurd step (other now)
  | _ => exact Bool.and_false _

theorem numbers_of_inFlight {number : UInt32} {e : PendingEntry}
    (given : number ∈ (since s t).filterMap Effect.packet?)
    (inFlight : t.pending.inFlight = s.pending.inFlight ++ [(number, e)]) :
    ∀ entry ∈ t.pending.inFlight,
      entry ∈ s.pending.inFlight ∨ entry.1 ∈ (since s t).filterMap Effect.packet? := by
  intro entry member
  rw [inFlight] at member
  rcases List.mem_append.mp member with old | new
  · exact .inl old
  · rw [List.mem_singleton.mp new]
    exact .inr given

theorem packet?_request (r : Request) (number : UInt32) (ticket : Option Nat) :
    (Effect.called r.call (.ok number) ticket).packet? = some number := by
  simp only [Effect.packet?, Request.call_id]

theorem inFlight_send (kept : s.pending.WellKept) (ascends : Ascends m s) (after : s.after m = t)
    {number : UInt32} (given : number ∈ (since s t).filterMap Effect.packet?) (e : PendingEntry)
    (plain : e.replay.isSome → e.resubscribe = false)
    (pending : t.pending = s.pending.insert (.packet number) e) :
    t.pending.inFlight = s.pending.inFlight ++ [(number, e)] := by
  rw [pending]
  rw [← after] at given
  exact kept.inFlight_insert_last number e plain (ascends number given)

theorem given_of_append {e : Effect} {number : UInt32}
    (appended : t.effects = s.effects ++ [e]) (packet : e.packet? = some number) :
    number ∈ (since s t).filterMap Effect.packet? := by
  rw [since_of_append appended]
  exact List.mem_filterMap.mpr ⟨e, List.mem_singleton_self e, packet⟩

theorem lined_connect (caller : Caller) :
    Lined ⟨.connect caller, engine⟩ s (s.connect engine caller).2 := by
  have after : s.after ⟨.connect caller, engine⟩ = (s.connect engine caller).2 := rfl
  have kept : loses ⟨.connect caller, engine⟩ s = false := loses_of_other fun _ => Step.noConfusion
  rw [connect_eq] at after ⊢
  by_cases free : s.phase.acceptsConnect = true
  · simp only [free, ↓reduceIte] at after ⊢
    cases answer : engine (.connect s.settings.keepAlive) with
    | ok number =>
      simp only [answer] at after
      exact .still after rfl rfl kept rfl (PendingTable.inFlight_insert_other (fun _ => rfl) _) rfl
    | error cause =>
      simp only [answer] at after
      exact .still after rfl rfl kept rfl rfl rfl
  · simp only [free, Bool.false_eq_true, ↓reduceIte] at after ⊢
    exact .still after (List.append_nil _).symm rfl kept rfl rfl rfl

theorem lined_disconnect (caller : Caller) :
    Lined ⟨.disconnect caller, engine⟩ s (s.disconnect engine caller).2 := by
  have after : s.after ⟨.disconnect caller, engine⟩ = (s.disconnect engine caller).2 := rfl
  have kept : loses ⟨.disconnect caller, engine⟩ s = false :=
    loses_of_other fun _ => Step.noConfusion
  have inFlight : (s.pending.insert .disconnect { responder := caller.responder }).inFlight =
      s.pending.inFlight := PendingTable.inFlight_insert_other (fun _ => rfl) _
  rw [disconnect_eq] at after ⊢
  by_cases connected : s.phase.isConnected = true
  · simp only [connected, ↓reduceIte] at after ⊢
    cases answer : engine .disconnect with
    | ok number =>
      simp only [answer] at after
      exact .still after rfl rfl kept rfl inFlight rfl
    | error cause =>
      simp only [answer] at after
      exact .still after rfl rfl kept rfl inFlight rfl
  · simp only [connected, Bool.false_eq_true, ↓reduceIte] at after ⊢
    exact .still after (List.append_nil _).symm rfl kept rfl inFlight rfl

theorem lined_request (request : Request) (caller : Caller) (kept : s.pending.WellKept)
    (ascends : Ascends ⟨.request request caller, engine⟩ s) :
    Lined ⟨.request request caller, engine⟩ s (s.route engine request caller).2 := by
  have after : s.after ⟨.request request caller, engine⟩ = (s.route engine request caller).2 := rfl
  have stays : loses ⟨.request request caller, engine⟩ s = false :=
    loses_of_other fun _ => Step.noConfusion
  have routed : Routed engine _ _ s (s.route engine request caller) := route_routed request caller s
  generalize s.route engine request caller = result at after routed ⊢
  cases routed with
  | rejected cause => exact .still after (List.append_nil _).symm rfl stays rfl rfl rfl
  | refused error cause refused ready => exact .still after rfl rfl stays rfl rfl rfl
  | parked recovering =>
    have taken := takenBy_of_append after (List.append_nil _).symm
    refine ⟨fun _ => .inl, .parked stays recovering ?_ rfl rfl taken⟩
    simp [queuedTickets]
  | evicting cause limit capacity full policy recovering =>
    have taken := takenBy_of_append after (List.append_nil _).symm
    refine ⟨fun _ => .inl, .parked stays recovering ?_ rfl rfl taken⟩
    simp only [queuedTickets, List.map_append, List.map_cons, List.map_nil]
    exact ((List.drop_sublist 1 _).map _).append_right _
  | sent number taken ready =>
    simp only at after
    have appended := congrArg Session.effects after
    have given := given_of_append (t := s.after _) appended (packet?_request _ number _)
    rw [after] at given
    have inFlight := inFlight_send kept ascends after given (entryOf _ _) (fun _ => rfl) rfl
    refine ⟨numbers_of_inFlight given inFlight, ?_⟩
    exact .sent stays ready number given rfl (unansweredTickets_of_inFlight inFlight) rfl
      (takenBy_of_append after rfl)

theorem lined_tick (kept : s.pending.WellKept) (ascends : Ascends ⟨.tick now, engine⟩ s) :
    Lined ⟨.tick now, engine⟩ s (s.tick engine now) := by
  have after : s.after ⟨.tick now, engine⟩ = s.tick engine now := rfl
  have stays : loses ⟨.tick now, engine⟩ s = false := loses_of_other fun _ => Step.noConfusion
  have paced : Paced engine s (s.tick engine now) := tick_paced s
  generalize s.tick engine now = t at after paced ⊢
  cases paced with
  | rested phase consumer backoff onward =>
    exact .still after (List.append_nil _).symm rfl stays rfl rfl rfl
  | restored record number phase consumer onward taken =>
    have given := given_of_append (t := s.after _) (congrArg Session.effects after) rfl
    rw [after] at given
    have inFlight := inFlight_send kept ascends after given (restoring record)
      (fun replay => absurd replay Bool.false_ne_true) rfl
    refine ⟨numbers_of_inFlight given inFlight, .fewer stays ?_ ?_ rfl (takenBy_of_append after rfl)⟩
    · exact List.Sublist.refl _
    · rw [unansweredTickets_of_inFlight inFlight, restoring, if_pos rfl, List.append_nil]
  | notRestored record cause phase consumer onward => exact .still after rfl rfl stays rfl rfl rfl
  | replayed a rest number consumer onward head taken =>
    have given := given_of_append (t := s.after _) (congrArg Session.effects after)
      (packet?_request _ number _)
    rw [after] at given
    have inFlight := inFlight_send kept ascends after given (entryOf _ _) (fun _ => rfl) rfl
    refine ⟨numbers_of_inFlight given inFlight, .replayed stays a.ticket ?_
      (unansweredTickets_of_inFlight inFlight) rfl (takenBy_of_append after rfl)⟩
    rw [queuedTickets, head]
    rfl
  | putBack a rest cause consumer onward head refused transient =>
    exact .still after rfl rfl stays rfl rfl rfl
  | discarded a rest cause consumer onward head refused permanent =>
    refine .fewer after (List.append_assoc _ _ _) ?_ stays ?_ (List.Sublist.refl _) rfl
    · rw [List.filterMap_append, untaken_of_uncalled (told_uncalled _ _ _)]
      rfl
    · rw [queuedTickets, queuedTickets, head]
      exact List.sublist_cons_self _ _

theorem lined_supervise : Lined ⟨.supervise now, engine⟩ s (s.supervise engine now) := by
  have after : s.after ⟨.supervise now, engine⟩ = s.supervise engine now := rfl
  have stays : loses ⟨.supervise now, engine⟩ s = false := loses_of_other fun _ => Step.noConfusion
  have supervised : Supervised engine s (s.supervise engine now) := supervise_supervised s
  generalize s.supervise engine now = t at after supervised ⊢
  cases supervised with
  | connected slept number attempting opened taken =>
    exact .still after rfl rfl stays rfl (PendingTable.inFlight_insert_other (fun _ => rfl) _) rfl
  | refused slept cause attempting opened answer => exact .still after rfl rfl stays rfl rfl rfl
  | _ => exact .still after (List.append_nil _).symm rfl stays rfl rfl rfl

theorem restored_tickets (s : Session) :
    ((s.unanswered.filter s.isKept).filterMap (·.2.replayed)).map Accepted.ticket =
      (s.unanswered.filter s.isKept).filterMap (·.2.ticket?) := by
  rw [List.map_filterMap]
  refine List.filterMap_congr fun entry _ => ?_
  rw [← entry.2.content?_ticket, ← entry.2.content?_replayed, Option.map_map]
  rfl

theorem restored_all (s : Session) (enabled : s.queue.isDisabled = false) :
    (s.unanswered.filter s.isKept).filterMap (·.2.ticket?) =
      s.unanswered.filterMap (·.2.ticket?) := by
  rw [List.filterMap_filter]
  refine List.filterMap_congr fun entry _ => ?_
  cases replay : entry.2.replay <;> simp [isKept, enabled, replay, PendingEntry.ticket?]

theorem lined_hungUp {code : UInt8} (events : EventQueue) (after : s.after m = t)
    (seen : hangsUp m s = true) (hungUp : HungUp code { s with events } t) : Lined m s t := by
  have leaving : Uncalled s.farewell := .hooks s.farewell_isHook
  have stays (aside : (s.phase.isConnected || s.phase == .abnormalDisconnect) = false) :
      loses m s = false := by rw [loses, aside, Bool.false_and]
  cases hungUp with
  | closed phase =>
    have uncalled := leaving.append ((answered_uncalled s.pending .disconnect
      (.disconnected code)).append (.single (rfl : Effect.stoppedIo.isCall = false)))
    refine .fewer after rfl (untaken_of_uncalled uncalled) (stays (by rw [phase]; rfl))
      (List.Sublist.refl _) ?_ rfl
    have none : (PendingTable.mk []).inFlight = [] := List.mergeSort_nil
    rw [none]
    exact List.nil_sublist _
  | idle phase =>
    exact .still after rfl (untaken_of_uncalled leaving) (stays (by rw [phase]; rfl)) rfl rfl rfl
  | connecting phase =>
    exact .still after rfl (untaken_of_uncalled leaving) (stays (by rw [phase]; rfl)) rfl rfl rfl
  | lost established =>
    have ends : loses m s = true := by
      rw [loses, seen, Bool.and_true]
      simpa using established
    have gone := PendingTable.inFlight_withoutPackets (t := s.pending)
    refine ⟨?_, .lost ends ((s.unanswered.filter s.isKept).filterMap (·.2.ticket?)) ?_
      (restored_all s) ?_ ?_ rfl ?_⟩
    · simp only [gone]
      exact fun entry member => absurd member List.not_mem_nil
    · exact (filterMap_some_sublist _ _).trans (List.filter_sublist.map _)
    · simp only [queuedTickets, OfflineQueue.restore, List.map_append]
      rw [← restored_tickets s]
      rfl
    · simp only [unansweredTickets, unanswered, gone, List.filter_nil, List.map_nil]
    · exact (takenBy_of_append after rfl).trans
        (untaken_of_uncalled (leaving.append (discarded_uncalled _)))

theorem lined_dispatch (kept : s.pending.WellKept) :
    Lined ⟨.dispatch now, engine⟩ s (s.dispatch engine now) := by
  have after : s.after ⟨.dispatch now, engine⟩ = s.dispatch engine now := rfl
  have dispatched : Dispatched now s (s.dispatch engine now) := dispatch_dispatched s
  have answering := answered_uncalled s.pending .connect
  have plain : (s.pending.erase .connect).inFlight = s.pending.inFlight :=
    PendingTable.inFlight_erase_other fun _ => rfl
  generalize s.dispatch engine now = t at after dispatched ⊢
  cases dispatched with
  | idle none =>
    have seen : dispatched? ⟨.dispatch now, engine⟩ s = .none := none
    have stays : loses ⟨.dispatch now, engine⟩ s = false := by
      rw [loses, hangsUp, seen]
      exact Bool.and_false _
    exact .still after (List.append_nil _).symm rfl stays rfl rfl rfl
  | handled e next t handled =>
    have seen : dispatched? ⟨.dispatch now, engine⟩ s = some e := next
    have ends : hangsUp ⟨.dispatch now, engine⟩ s = e.isDisconnect := by
      rw [hangsUp, seen]
      rfl
    have stays (other : e.isDisconnect = false) :
        loses ⟨.dispatch now, engine⟩ s = false := by
      rw [loses, ends, other, Bool.and_false]
    have unended {ack : Ack} (of : e.ack? = some ack) : e.isDisconnect = false := by
      refine Bool.eq_false_of_not_eq_true fun closing => ?_
      rw [ack?_of_closing closing] at of
      exact absurd of.symm (Option.some_ne_none ack)
    cases handled with
    | welcomed kind connecting =>
      have uncalled := (answering (.connected 0)).append
        (.hooks (hooked_isHook s.hooks.online .online fun _ => rfl))
      exact .still after rfl (untaken_of_uncalled uncalled)
        (stays (by rw [Event.isDisconnect, kind])) rfl plain rfl
    | turnedAway code kind refused connecting =>
      have uncalled := (answering (.connected code)).append
        (.single (rfl : Effect.stoppedIo.isCall = false))
      exact .still after rfl (untaken_of_uncalled uncalled)
        (stays (by rw [Event.isDisconnect, kind])) rfl plain rfl
    | unheeded code kind elsewhere =>
      exact .still after rfl (untaken_of_uncalled (answering _))
        (stays (by rw [Event.isDisconnect, kind])) rfl plain rfl
    | hungUp code kind t hungUp =>
      exact lined_hungUp _ after (by rw [ends, Event.isDisconnect, kind]) hungUp
    | unknown ack of unknown =>
      exact .still after (List.append_nil _).symm rfl (stays (unended of)) rfl rfl rfl
    | acknowledged ack of entry found consumer recovery =>
      exact .fewer after rfl (untaken_of_uncalled (told_uncalled _ _ _)) (stays (unended of))
        (List.Sublist.refl _) (kept.inFlight_filter _) rfl
    | delivered message kind consumer effects same hooks =>
      exact .still after rfl (untaken_of_uncalled (.hooks hooks))
        (stays (by rw [Event.isDisconnect, kind])) rfl rfl rfl

theorem lined (kept : s.pending.WellKept) (m : Move) (ascends : Ascends m s) :
    Lined m s (s.after m) := by
  obtain ⟨step, engine⟩ := m
  have aside {t : Session} (other : ∀ now, step ≠ .dispatch now)
      (after : s.after ⟨step, engine⟩ = t) (effects : t.effects = s.effects)
      (queued : t.queuedTickets.Sublist s.queuedTickets) (pending : t.pending = s.pending)
      (issued : t.nextTicket = s.nextTicket) : Lined ⟨step, engine⟩ s t := by
    refine .fewer after (effects.trans (List.append_nil _).symm) rfl (loses_of_other other) queued
      ?_ issued
    rw [pending]
  cases step with
  | connect caller => exact lined_connect caller
  | disconnect caller => exact lined_disconnect caller
  | request request caller => exact lined_request request caller kept ascends
  | dispatch now => exact lined_dispatch kept
  | tick now => exact lined_tick kept ascends
  | supervise now => exact lined_supervise
  | adjust adjustment =>
    obtain ⟨settings, hooks, backoff, adjusted⟩ := adjust_eq adjustment s
    have after : s.after ⟨.adjust adjustment, engine⟩ = { s with settings, hooks, backoff } := adjusted
    rw [after]
    exact aside (fun _ => Step.noConfusion) after rfl (List.Sublist.refl _) rfl rfl
  | configureQueue capacity policy =>
    refine aside (fun _ => Step.noConfusion) rfl rfl ?_ rfl rfl
    exact (OfflineQueue.trim_sublist _ policy s.queue.items).map _
  | report report => exact aside (fun _ => Step.noConfusion) rfl rfl (List.Sublist.refl _) rfl rfl
  | expire timer => exact aside (fun _ => Step.noConfusion) rfl rfl (List.Sublist.refl _) rfl rfl

/-! ### The line -/

def stillTaken (m : Move) (s : Session) (taken : List Nat) : List Nat :=
  if loses m s then [] else taken ++ takenBy m s

theorem stillTaken_of_kept {taken : List Nat} (kept : loses m s = false) :
    stillTaken m s taken = taken ++ takenBy m s := by
  rw [stillTaken, kept]
  rfl

/-- The tickets that the engine has taken since a session was last lost, after a run. -/
def takenAfter : List Move → Session → List Nat → List Nat
  | [], _, taken => taken
  | m :: rest, s, taken => takenAfter rest (s.after m) (stillTaken m s taken)

/-- What the engine has taken, then what is parked, is one line. -/
structure InLine (s : Session) (taken : List Nat) : Prop where
  custody : Custody s
  numbers : ∀ entry ∈ s.pending.inFlight, entry.1 ∈ s.numbers
  inFlight : s.unansweredTickets.Sublist (taken.map some)
  increasing : (taken ++ s.queuedTickets).Pairwise (· < ·)
  issued : ∀ ticket ∈ taken ++ s.queuedTickets, ticket < s.nextTicket
  drained : Drained s

theorem InLine.start (settings : Settings) : InLine (start settings) [] where
  custody := .start settings
  numbers := by
    intro entry member
    exact absurd (PendingTable.mem_inFlight.mp member) List.not_mem_nil
  inFlight := by
    have none : (PendingTable.mk []).inFlight = [] := List.mergeSort_nil
    rw [unansweredTickets, unanswered, Session.start, none]
    exact List.Sublist.refl _
  increasing := List.Pairwise.nil
  issued := fun _ member => absurd member List.not_mem_nil
  drained := fun _ => rfl

theorem numbers_after (m : Move) (s : Session) :
    (s.after m).numbers = s.numbers ++ (since s (s.after m)).filterMap Effect.packet? := by
  obtain ⟨effects, appended⟩ := (framed m s).effects
  rw [since_of_append appended.symm, numbers, ← appended, List.filterMap_append, numbers]

theorem InLine.ascends {taken : List Nat} (inLine : InLine s taken)
    (ascending : (s.after m).numbers.Pairwise (· < ·)) : Ascends m s := by
  rw [numbers_after] at ascending
  intro number given entry member
  exact (List.pairwise_append.mp ascending).2.2 _ (inLine.numbers entry member) number given

theorem increasing_append {line : List Nat} {next : Nat} (increasing : line.Pairwise (· < ·))
    (issued : ∀ ticket ∈ line, ticket < next) : (line ++ [next]).Pairwise (· < ·) := by
  refine List.pairwise_append.mpr ⟨increasing, List.pairwise_singleton _ _, ?_⟩
  intro ticket member last single
  rw [List.mem_singleton.mp single]
  exact issued ticket member

theorem issued_append {line : List Nat} {next : Nat} (issued : ∀ ticket ∈ line, ticket < next) :
    ∀ ticket ∈ line ++ [next], ticket < next + 1 := by
  intro ticket member
  rcases List.mem_append.mp member with old | new
  · exact Nat.lt_succ_of_lt (issued ticket old)
  · rw [List.mem_singleton.mp new]
    exact Nat.lt_succ_self next

theorem InLine.nothing_parked {taken : List Nat} (inLine : InLine s taken)
    (ready : s.phase.isRecovering = false) (refuses : RefusesAway m s) {number : UInt32}
    (given : number ∈ (since s (s.after m)).filterMap Effect.packet?) : s.queuedTickets = [] := by
  have wanted (away : s.phase = .idle ∨ s.phase = .userDisconnect) : False := by
    rw [refuses away] at given
    exact absurd given List.not_mem_nil
  have stable : s.phase = .stable := by
    cases phase : s.phase with
    | stable => rfl
    | idle => exact (wanted (.inl phase)).elim
    | userDisconnect => exact (wanted (.inr phase)).elim
    | _ =>
      rw [phase] at ready
      exact absurd ready.symm Bool.false_ne_true
  rw [queuedTickets, inLine.drained stable]
  rfl

theorem sublist_of_map_some {first second : List Nat}
    (sublist : (first.map some).Sublist (second.map some)) : first.Sublist second := by
  have plain := sublist.filterMap id
  simpa [List.filterMap_map] using plain

theorem InLine.after {taken : List Nat} (inLine : InLine s taken) (m : Move)
    (ascending : (s.after m).numbers.Pairwise (· < ·)) (refuses : RefusesAway m s) :
    InLine (s.after m) (stillTaken m s taken) := by
  have ascends := inLine.ascends ascending
  obtain ⟨ended, handover, _⟩ := handover_step inLine.custody m ascends.fresh
  have custody := handover.custody inLine.custody fun _ => asked?_ticket
  have moved := lined inLine.custody.kept m ascends
  have numbers : ∀ entry ∈ (s.after m).pending.inFlight, entry.1 ∈ (s.after m).numbers := by
    intro entry member
    rw [numbers_after]
    rcases moved.numbers entry member with old | new
    · exact List.mem_append_left _ (inLine.numbers entry old)
    · exact List.mem_append_right _ new
  have drained := inLine.drained.after m
  have increasing := inLine.increasing
  have issued := inLine.issued
  cases moved.shifted with
  | fewer kept queued unanswered next sends =>
    rw [stillTaken_of_kept kept, sends, List.append_nil]
    have fewer := queued.append_left taken
    refine ⟨custody, numbers, unanswered.trans inLine.inFlight, ?_, ?_, drained⟩
    · exact increasing.sublist fewer
    · rw [next]
      exact fun ticket member => issued ticket (fewer.subset member)
  | parked kept recovering queued unanswered next sends =>
    rw [stillTaken_of_kept kept, sends, List.append_nil]
    have fewer := queued.append_left taken
    rw [← List.append_assoc] at fewer
    refine ⟨custody, numbers, ?_, ?_, ?_, drained⟩
    · rw [unanswered]
      exact inLine.inFlight
    · exact (increasing_append increasing issued).sublist fewer
    · rw [next]
      exact fun ticket member => issued_append issued ticket (fewer.subset member)
  | sent kept ready number given queued unanswered next sends =>
    have none := inLine.nothing_parked ready refuses given
    rw [none, List.append_nil] at increasing issued
    rw [stillTaken_of_kept kept, sends]
    refine ⟨custody, numbers, ?_, ?_, ?_, drained⟩
    · rw [unanswered, List.map_append]
      exact inLine.inFlight.append_right _
    · rw [queued, none, List.append_nil]
      exact increasing_append increasing issued
    · rw [queued, none, List.append_nil, next]
      exact issued_append issued
  | replayed kept ticket queued unanswered next sends =>
    rw [queued] at increasing issued
    rw [stillTaken_of_kept kept, sends]
    refine ⟨custody, numbers, ?_, ?_, ?_, drained⟩
    · rw [unanswered, List.map_append]
      exact inLine.inFlight.append_right _
    · simpa using increasing
    · rw [next]
      simpa using issued
  | lost loses restored fromFlight all queued unanswered next sends =>
    rw [stillTaken, if_pos loses]
    have front := (sublist_of_map_some (fromFlight.trans inLine.inFlight)).append_right s.queuedTickets
    refine ⟨custody, numbers, ?_, ?_, ?_, drained⟩
    · rw [unanswered]
      exact List.Sublist.refl _
    · rw [queued]
      exact increasing.sublist front
    · rw [queued, next]
      exact fun ticket member => issued ticket (front.subset member)

theorem numbers_sublist_run (moves : List Move) (s : Session) :
    s.numbers.Sublist (run moves s).numbers :=
  (run_effects_grow moves s).sublist.filterMap _

theorem InLine.run {taken : List Nat} (inLine : InLine s taken) (moves : List Move)
    (ascending : (run moves s).numbers.Pairwise (· < ·)) (refuses : RefusesAlong moves s) :
    InLine (run moves s) (takenAfter moves s taken) := by
  induction moves generalizing s taken with
  | nil => exact inLine
  | cons m rest ih =>
    have early := ascending.sublist (numbers_sublist_run rest (s.after m))
    exact ih (inLine.after m early refuses.1) ascending refuses.2

/-- As long as no session is lost, whatever the engine takes joins what it has taken. -/
theorem takenAfter_of_kept (moves : List Move) (s : Session) (taken : List Nat)
    (kept : losesAlong moves s = false) :
    takenAfter moves s taken = taken ++ takenAlong moves s := by
  induction moves generalizing s taken with
  | nil =>
    rw [takenAlong, Session.run, since, List.drop_length, List.filterMap_nil, List.append_nil]
    rfl
  | cons m rest ih =>
    obtain ⟨now, later⟩ := (Bool.or_eq_false_iff).mp kept
    rw [takenAfter, ih _ _ later, stillTaken_of_kept now, takenAlong, takenAlong, since_run_cons,
      List.filterMap_append, List.append_assoc]
    rfl

/-- The order of what a session holds, and of what it sends in the moves that come next. -/
structure InOrder (s : Session) (next : List Move) : Prop where
  identifiers : s.unanswered.Pairwise fun a b => a.1 < b.1
  /-- What is in flight, by number, and then what is parked is in the order of acceptance. -/
  held : ∃ tickets : List Nat, tickets.Pairwise (· < ·) ∧
    s.unansweredTickets ++ s.queuedTickets.map some = tickets.map some
  /-- Until a session is lost the engine takes requests in the order of acceptance, and ahead of
  all that is still parked then. -/
  sent : losesAlong next s = false →
    (takenAlong next s ++ (run next s).queuedTickets).Pairwise (· < ·)
  /-- A lost session puts back what is in flight, ahead of all that is parked. -/
  restored : ∀ m, loses m s = true → s.queue.isDisabled = false →
    (s.after m).unanswered = [] ∧
      (s.after m).queuedTickets.map some = s.unansweredTickets ++ s.queuedTickets.map some

/-- A lost session puts back all that is in flight. -/
theorem InLine.restored {taken : List Nat} (inLine : InLine s taken) (m : Move)
    (lost : loses m s = true) (enabled : s.queue.isDisabled = false) :
    (s.after m).unanswered = [] ∧
      (s.after m).queuedTickets.map some = s.unansweredTickets ++ s.queuedTickets.map some := by
  obtain ⟨tickets, _, numbered⟩ := List.sublist_map_iff.mp inLine.inFlight
  have moved : Lined m s (s.after m) := by
    obtain ⟨step, engine⟩ := m
    cases step with
    | dispatch now => exact lined_dispatch inLine.custody.kept
    | _ => exact absurd lost (by simp [loses, hangsUp, dispatched?])
  cases moved.shifted with
  | lost loses restored fromFlight all queued unanswered next sends =>
    have same : restored = tickets := by
      have direct : s.unanswered.filterMap (·.2.ticket?) = s.unansweredTickets.filterMap id := by
        rw [unansweredTickets, List.filterMap_map]
        rfl
      rw [all enabled, direct, numbered, List.filterMap_map]
      exact List.filterMap_some
    refine ⟨List.map_eq_nil_iff.mp unanswered, ?_⟩
    rw [queued, List.map_append, same, numbered]
  | fewer kept => exact absurd (kept.symm.trans lost) Bool.false_ne_true
  | parked kept => exact absurd (kept.symm.trans lost) Bool.false_ne_true
  | sent kept => exact absurd (kept.symm.trans lost) Bool.false_ne_true
  | replayed kept => exact absurd (kept.symm.trans lost) Bool.false_ne_true

/-- Requests are held and sent in the order in which they were accepted, over any number of lost
sessions, as long as the engine numbers what it takes upwards and takes nothing while no session
is wanted. -/
theorem requests_inOrder (settings : Settings) (before next : List Move)
    (ascending : (run (before ++ next) (start settings)).numbers.Pairwise (· < ·))
    (refuses : RefusesAlong (before ++ next) (start settings)) :
    InOrder (run before (start settings)) next := by
  obtain ⟨early, late⟩ := (refusesAlong_append before next (start settings)).mp refuses
  rw [run_append] at ascending
  have first := ascending.sublist (numbers_sublist_run next (run before (start settings)))
  have inLine := (InLine.start settings).run before first early
  generalize run before (start settings) = s at ascending late inLine ⊢
  generalize takenAfter before (start settings) [] = taken at inLine
  constructor
  case identifiers => exact inLine.custody.kept.inFlight_ascending.sublist List.filter_sublist
  case held =>
    obtain ⟨tickets, part, numbered⟩ := List.sublist_map_iff.mp inLine.inFlight
    refine ⟨tickets ++ s.queuedTickets, inLine.increasing.sublist (part.append_right _), ?_⟩
    rw [numbered, List.map_append]
  case sent =>
    intro kept
    have later := (inLine.run next ascending late).increasing
    rw [takenAfter_of_kept next s taken kept, List.append_assoc] at later
    exact (List.pairwise_append.mp later).2.1
  case restored => exact inLine.restored

/-- Two requests are parked and one of them is sent before the session is lost. On the next session
both are sent, ahead of the one that was parked in between. -/
def flappingRun : List Move :=
  [⟨.connect (.notified none), numbering 0⟩,
   ⟨.request ⟨"a", .publish .empty .atLeastOnce false, none⟩ (.notified none), numbering 0⟩,
   ⟨.request ⟨"b", .publish .empty .atLeastOnce false, none⟩ (.notified none), numbering 0⟩,
   ⟨.report (.connack 0), numbering 0⟩, ⟨.dispatch 0, numbering 0⟩, ⟨.tick 0, numbering 1⟩,
   ⟨.report (.disconnect 1), numbering 0⟩, ⟨.dispatch 0, numbering 0⟩,
   ⟨.request ⟨"c", .publish .empty .atLeastOnce false, none⟩ (.notified none), numbering 0⟩,
   ⟨.connect (.notified none), numbering 0⟩, ⟨.report (.connack 0), numbering 0⟩,
   ⟨.dispatch 0, numbering 0⟩, ⟨.tick 0, numbering 2⟩, ⟨.tick 500000000, numbering 3⟩]

def settlingRun : List Move :=
  [⟨.tick 1000000000, numbering 4⟩, ⟨.tick 1500000000, numbering 5⟩,
   ⟨.request ⟨"d", .publish .empty .atLeastOnce false, none⟩ (.notified none), numbering 5⟩]

theorem flappingRun_inOrder :
    (run (flappingRun ++ settlingRun) (start .standard)).numbers = [1, 2, 3, 4, 5] ∧
      RefusesAlong (flappingRun ++ settlingRun) (start .standard) ∧
      (run flappingRun (start .standard)).unansweredTickets = [some 0, some 1] ∧
      (run flappingRun (start .standard)).queuedTickets = [2] ∧
      takenAlong settlingRun (run flappingRun (start .standard)) = [2, 3] ∧
      InOrder (run flappingRun (start .standard)) settlingRun := by
  have numbers : (run (flappingRun ++ settlingRun) (start .standard)).numbers = [1, 2, 3, 4, 5] := by
    decide +kernel
  have refuses : RefusesAlong (flappingRun ++ settlingRun) (start .standard) := by decide +kernel
  refine ⟨numbers, refuses, by cbv, by decide +kernel, by decide +kernel, ?_⟩
  exact requests_inOrder .standard flappingRun settlingRun (by rw [numbers]; decide) refuses

end Session

end DurableMqtt
