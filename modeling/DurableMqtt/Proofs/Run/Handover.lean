import DurableMqtt.Proofs.Pending
import DurableMqtt.Proofs.Queue
import DurableMqtt.Proofs.Run.Frame

/-!
How a step hands requests over.

The requests of the queue and of the pending table are counted together. Each step moves requests
between the two, takes some out, and adds the new one that it is asked for.
-/

namespace DurableMqtt

def Effect.ticket? : Effect → Option Nat
  | called _ _ ticket => ticket
  | _ => none

def Effect.packet? : Effect → Option UInt32
  | called call (.ok number) _ =>
    match call.id number with
    | .packet number => some number
    | _ => none
  | _ => none

namespace Session

/-- The engine numbers no request like one that is still in flight. -/
def Fresh (m : Move) (s : Session) : Prop :=
  ∀ number ∈ (since s (s.after m)).filterMap Effect.packet?, s.pending.find? (.packet number) = none

instance (m : Move) (s : Session) : Decidable (Fresh m s) :=
  List.decidableBAll (fun number => s.pending.find? (.packet number) = none) _

theorem Fresh.free {m : Move} {s : Session} {call : EngineCall} {number : UInt32}
    {ticket : Option Nat} {effects : List Effect} (fresh : Fresh m s)
    (appended : (s.after m).effects = s.effects ++ effects)
    (taken : .called call (.ok number) ticket ∈ effects)
    (packet : call.id number = .packet number) : s.pending.find? (.packet number) = none := by
  rw [← since_of_append appended] at taken
  refine fresh number (List.mem_filterMap.mpr ⟨_, taken, ?_⟩)
  simp only [Effect.packet?, packet]

/-! ### Where a request is -/

def queuedTickets (s : Session) : List Nat := s.queue.items.map Accepted.ticket

def inFlightTickets (s : Session) : List Nat := s.pending.inFlight.filterMap (·.2.ticket?)

/-- Why a step finishes a request. -/
inductive Ends (m : Move) (s : Session) (ticket : Nat) : Prop where
  /-- The acknowledgment for its current identifier is dispatched. -/
  | acknowledged (now : Instant) (e : Event) (number : UInt32) (entry : PendingEntry)
      (step : m.step = .dispatch now) (next : s.nextEvent? = some e) (ack : e.ack?.isSome)
      (identifier : e.id = .packet number) (found : s.pending.find? (.packet number) = some entry)
      (keeps : entry.ticket? = some ticket)
  /-- The engine will never send it, and its listener is told. -/
  | refused (now : Instant) (a : Accepted) (rest : List Accepted) (cause : EngineError)
      (step : m.step = .tick now) (head : s.queue.items = a :: rest) (same : a.ticket = ticket)
      (refused : m.engine a.request.call = .error cause) (permanent : cause.isTransient = false)
      (answered : told .queued (a.request.onAck.map .pooled) .discarded ⊆ since s (s.after m))
  /-- Its session is lost while nothing can be parked, and whoever waits for it is told. -/
  | lost (now : Instant) (code : UInt8) (e : Event) (number : UInt32) (entry : PendingEntry)
      (step : m.step = .dispatch now) (next : s.nextEvent? = some e)
      (closed : e.kind = .disconnect code) (disabled : s.queue.isDisabled)
      (inFlight : (number, entry) ∈ s.pending.inFlight) (keeps : entry.ticket? = some ticket)
      (answered : told (.packet number) entry.responder .discarded ⊆ since s (s.after m))
  /-- It gives way to a newer request. -/
  | evicted (request : Request) (caller : Caller) (a : Accepted) (rest : List Accepted)
      (limit : Nat) (step : m.step = .request request caller)
      (policy : s.queue.policy = .dropOldest) (capacity : s.queue.capacity = .bounded limit)
      (full : limit ≤ s.queue.items.length) (head : s.queue.items = a :: rest)
      (same : a.ticket = ticket)
  /-- It does not fit the queue any more. -/
  | trimmed (capacity : Int) (policy : DropPolicy) (step : m.step = .configureQueue capacity policy)
      (parked : ticket ∈ s.queuedTickets) (gone : ticket ∉ (s.after m).queuedTickets)
  /-- The application closed its session, and the end of that session is dispatched. -/
  | cleared (now : Instant) (code : UInt8) (e : Event) (step : m.step = .dispatch now)
      (next : s.nextEvent? = some e) (closed : e.kind = .disconnect code)
      (phase : s.phase = .userDisconnect) (inFlight : ticket ∈ s.inFlightTickets)

/-! ### One step -/

def held (s : Session) : List Accepted := s.queue.items.map Accepted.content ++ s.pending.contents

def heldTickets (s : Session) : List Nat := s.held.map Accepted.ticket

/-- The request that a move asks for, under the ticket that comes next. -/
def asked? (m : Move) (s : Session) : Option Accepted :=
  match m.step with
  | .request request _ => some ⟨s.nextTicket, request.withListener none⟩
  | _ => none

def SendsOnly (known : Accepted → Prop) (effects : List Effect) : Prop :=
  ∀ call answer ticket, .called call answer (some ticket) ∈ effects →
    ∃ a, known a ∧ a.ticket = ticket ∧ a.request.call = call

namespace SendsOnly

variable {known : Accepted → Prop}

theorem nil : SendsOnly known [] := fun _ _ _ member => absurd member List.not_mem_nil

theorem append {first second : List Effect} (early : SendsOnly known first)
    (late : SendsOnly known second) : SendsOnly known (first ++ second) := by
  intro call answer ticket member
  rcases List.mem_append.mp member with here | there
  · exact early call answer ticket here
  · exact late call answer ticket there

theorem of_ticket?_none {e : Effect} (silent : e.ticket? = none) : SendsOnly known [e] := by
  intro call answer ticket member
  rw [← List.mem_singleton.mp member] at silent
  exact absurd silent (Option.some_ne_none ticket)

theorem of_known (a : Accepted) (is : known a) (answer : Except EngineError UInt32) :
    SendsOnly known [.called a.request.call answer (some a.ticket)] := by
  intro call given ticket member
  cases List.mem_singleton.mp member
  exact ⟨a, is, rfl, rfl⟩

theorem of_uncalled {effects : List Effect} (uncalled : Uncalled effects) :
    SendsOnly known effects := by
  intro call answer ticket member
  exact absurd (uncalled _ member).symm Bool.false_ne_true

end SendsOnly

/-- How a step hands requests over. -/
structure Handover (asked : Option Accepted) (s t : Session) (ended : List Accepted) : Prop where
  kept : t.pending.WellKept
  /-- Nothing is new but the request that is asked for. -/
  balance : ∃ new : List Accepted, new.Sublist asked.toList ∧
    t.nextTicket = s.nextTicket + new.length ∧ (t.held ++ ended).Perm (s.held ++ new)
  sent : SendsOnly (fun a => a ∈ s.held ∨ asked = some a) (since s t)

variable {s t : Session} {engine : Engine} {now : Instant} {asked : Option Accepted}

theorem inFlightTickets_perm (kept : s.pending.WellKept) :
    s.inFlightTickets.Perm (s.pending.contents.map Accepted.ticket) := by
  have contents := (PendingTable.contents_inFlight kept).map Accepted.ticket
  rw [List.map_filterMap] at contents
  refine List.Perm.trans (List.Perm.of_eq ?_) contents
  exact List.filterMap_congr fun entry _ => entry.2.content?_ticket.symm

theorem heldTickets_perm (kept : s.pending.WellKept) :
    s.heldTickets.Perm (s.queuedTickets ++ s.inFlightTickets) := by
  unfold heldTickets held queuedTickets
  rw [List.map_append, List.map_map]
  exact (inFlightTickets_perm kept).symm.append_left _

theorem Handover.none (kept : t.pending.WellKept) (queue : t.queue = s.queue)
    (pending : t.pending.contents = s.pending.contents) (issued : t.nextTicket = s.nextTicket)
    (effects : List Effect) (appended : t.effects = s.effects ++ effects)
    (sent : SendsOnly (fun a => a ∈ s.held ∨ asked = some a) effects) : Handover asked s t [] where
  kept := kept
  balance := by
    have same : t.held = s.held := by
      unfold held
      rw [queue, pending]
    refine ⟨[], List.nil_sublist _, issued, ?_⟩
    rw [same]
  sent := by
    rw [since_of_append appended]
    exact sent

theorem Handover.unmoved (kept : s.pending.WellKept) (queue : t.queue = s.queue)
    (pending : t.pending = s.pending) (issued : t.nextTicket = s.nextTicket)
    (effects : t.effects = s.effects) : Handover asked s t [] := by
  refine .none ?_ queue ?_ issued [] ?_ .nil
  · rw [pending]
    exact kept
  · rw [pending]
  · rw [effects, List.append_nil]

theorem handover_connect (caller : Caller) (kept : s.pending.WellKept) :
    Handover asked s (s.connect engine caller).2 [] := by
  have entry : ∀ e, PendingTable.asPacket? (.connect, e) = none := fun _ => rfl
  rw [connect_eq]
  by_cases free : s.phase.acceptsConnect = true
  · simp only [free, ↓reduceIte]
    cases engine (.connect s.settings.keepAlive) with
    | ok number =>
      exact .none (kept.insert_plain _ _ rfl) rfl (kept.contents_insert_plain entry _ rfl) rfl _ rfl
        (.of_ticket?_none rfl)
    | error cause => exact .none kept rfl rfl rfl _ rfl (.of_ticket?_none rfl)
  · simp only [free, Bool.false_eq_true, ↓reduceIte]
    exact .unmoved kept rfl rfl rfl rfl

theorem handover_disconnect (caller : Caller) (kept : s.pending.WellKept) :
    Handover asked s (s.disconnect engine caller).2 [] := by
  have entry : ∀ e, PendingTable.asPacket? (.disconnect, e) = none := fun _ => rfl
  have keeps := kept.insert_plain .disconnect { responder := caller.responder } rfl
  have same := kept.contents_insert_plain entry { responder := caller.responder } rfl
  rw [disconnect_eq]
  by_cases connected : s.phase.isConnected = true
  · simp only [connected, ↓reduceIte]
    cases engine .disconnect with
    | ok number => exact .none keeps rfl same rfl _ rfl (.of_ticket?_none rfl)
    | error cause => exact .none keeps rfl same rfl _ rfl (.of_ticket?_none rfl)
  · simp only [connected, Bool.false_eq_true, ↓reduceIte]
    exact .none keeps rfl same rfl [] (List.append_nil _).symm .nil

theorem handover_supervise (kept : s.pending.WellKept) :
    Handover asked s (s.supervise engine now) [] := by
  have entry : ∀ e, PendingTable.asPacket? (.connect, e) = none := fun _ => rfl
  have supervised : Supervised engine s (s.supervise engine now) := supervise_supervised s
  generalize s.supervise engine now = t at supervised ⊢
  cases supervised with
  | connected slept number attempting opened taken =>
    exact .none (kept.insert_plain _ _ rfl) rfl (kept.contents_insert_plain entry _ rfl) rfl _ rfl
      (.of_ticket?_none rfl)
  | refused slept cause attempting opened answer =>
    exact .none kept rfl rfl rfl _ rfl (.of_ticket?_none rfl)
  | _ => exact .unmoved kept rfl rfl rfl rfl

theorem handover_adjust (adjustment : Adjustment) (kept : s.pending.WellKept) :
    Handover asked s (s.adjust adjustment) [] := by
  obtain ⟨settings, hooks, backoff, adjusted⟩ := adjust_eq adjustment s
  rw [adjusted]
  exact .unmoved kept rfl rfl rfl rfl

theorem Handover.new {ended : List Accepted} (a : Accepted) (kept : t.pending.WellKept)
    (issued : t.nextTicket = s.nextTicket + 1) (balance : (t.held ++ ended).Perm (s.held ++ [a]))
    (effects : List Effect) (appended : t.effects = s.effects ++ effects)
    (sent : SendsOnly (fun b => b ∈ s.held ∨ some a = some b) effects) :
    Handover (some a) s t ended where
  kept := kept
  balance := ⟨[a], List.Sublist.refl _, issued, balance⟩
  sent := by
    rw [since_of_append appended]
    exact sent

theorem Handover.old {ended : List Accepted} (kept : t.pending.WellKept)
    (issued : t.nextTicket = s.nextTicket) (balance : (t.held ++ ended).Perm s.held)
    (effects : List Effect) (appended : t.effects = s.effects ++ effects)
    (sent : SendsOnly (fun a => a ∈ s.held ∨ asked = some a) effects) :
    Handover asked s t ended where
  kept := kept
  balance := by
    refine ⟨[], List.nil_sublist _, issued, ?_⟩
    rw [List.append_nil]
    exact balance
  sent := by
    rw [since_of_append appended]
    exact sent

theorem contents_send (number : UInt32) (a : Accepted) (responder : Option Responder)
    (kept : s.pending.WellKept) (free : s.pending.find? (.packet number) = none) :
    (s.pending.insert (.packet number) (entryOf a responder)).WellKept ∧
      (s.pending.insert (.packet number) (entryOf a responder)).contents =
        s.pending.contents ++ [a.content] := by
  constructor
  · exact kept.insert _ _ fun _ => ⟨rfl, rfl⟩
  · refine PendingTable.contents_insert _ fun entry member same => ?_
    exact absurd same (PendingTable.find?_none free entry member)

theorem handover_request (request : Request) (caller : Caller) (kept : s.pending.WellKept)
    (fresh : Fresh ⟨.request request caller, engine⟩ s) :
    ∃ ended, Handover (asked? ⟨.request request caller, engine⟩ s) s
        (s.route engine request caller).2 ended ∧
      ∀ a ∈ ended, Ends ⟨.request request caller, engine⟩ s a.ticket := by
  have after : s.after ⟨.request request caller, engine⟩ = (s.route engine request caller).2 := rfl
  have routed : Routed engine _ _ s (s.route engine request caller) := route_routed request caller s
  generalize accepted : Accepted.mk s.nextTicket (request.withListener caller.listener) = a at routed
  -- The listener that the caller brings is not part of what is held.
  have asked : asked? ⟨.request request caller, engine⟩ s = some a.content := by
    rw [← accepted]
    rfl
  rw [asked]
  generalize s.route engine request caller = result at after routed ⊢
  cases routed with
  | rejected cause => exact ⟨[], .unmoved kept rfl rfl rfl rfl, by simp⟩
  | parked recovering =>
    refine ⟨[], .new _ kept rfl ?_ [] (List.append_nil _).symm .nil, by simp⟩
    simp only [held, List.map_append, List.map_cons, List.map_nil, List.append_nil,
      List.append_assoc]
    exact List.perm_append_comm.append_left _
  | evicting cause limit capacity full policy recovering =>
    refine ⟨(s.queue.items.take 1).map Accepted.content,
      .new _ kept rfl ?_ [] (List.append_nil _).symm .nil, ?_⟩
    · have split := (List.take_append_drop 1 s.queue.items).symm
      simp only [held, List.map_append, List.map_cons, List.map_nil]
      conv_rhs => rw [split, List.map_append]
      refine List.perm_iff_count.mpr fun content => ?_
      simp only [List.count_append]
      omega
    · intro content member
      obtain ⟨evicted, first, rfl⟩ := List.mem_map.mp member
      cases items : s.queue.items with
      | nil =>
        rw [items] at first
        exact absurd first List.not_mem_nil
      | cons oldest rest =>
        rw [items] at first
        rw [List.mem_singleton.mp first]
        exact .evicted request caller oldest rest limit rfl policy capacity full items rfl
  | sent number taken ready =>
    have free : s.pending.find? (.packet number) = none :=
      fresh.free (congrArg effects after) (List.mem_singleton_self _) (Request.call_id _ number)
    obtain ⟨keeps, contents⟩ := contents_send number a caller.responder kept free
    refine ⟨[], .new _ keeps rfl ?_ _ rfl (.of_known a.content (.inr rfl) _), by simp⟩
    simp only [held, contents, List.append_nil, List.append_assoc]
    exact List.Perm.refl _
  | refused error cause refused ready =>
    refine ⟨[], .none kept rfl rfl rfl _ rfl (.of_known a.content (.inr rfl) _), by simp⟩

theorem handover_configureQueue (capacity : Int) (policy : DropPolicy) (kept : s.pending.WellKept)
    (once : s.queuedTickets.Nodup) :
    ∃ ended, Handover asked s (s.configureQueue capacity policy) ended ∧
      ∀ a ∈ ended, Ends ⟨.configureQueue capacity policy, engine⟩ s a.ticket := by
  have split := OfflineQueue.trim_perm (.ofInt capacity) policy s.queue.items
  have contents := split.map Accepted.content
  rw [List.map_append] at contents
  refine ⟨(OfflineQueue.trimmed (.ofInt capacity) policy s.queue.items).map Accepted.content,
    .old kept rfl ?_ [] (List.append_nil _).symm .nil, ?_⟩
  · refine List.Perm.trans ?_ (contents.append_right s.pending.contents)
    simp only [held, configureQueue, OfflineQueue.reconfigure, List.append_assoc]
    exact List.perm_append_comm.append_left _
  · intro content member
    obtain ⟨a, dropped, rfl⟩ := List.mem_map.mp member
    have tickets := split.map Accepted.ticket
    rw [List.map_append] at tickets
    have apart := (List.nodup_append.mp (tickets.nodup_iff.mpr once)).2.2
    have gone : a.ticket ∈ (OfflineQueue.trimmed (.ofInt capacity) policy s.queue.items).map
        Accepted.ticket := List.mem_map_of_mem dropped
    refine .trimmed capacity policy rfl ?_ fun left => apart a.ticket left a.ticket gone rfl
    exact tickets.subset (List.mem_append_right _ gone)

theorem handover_tick (kept : s.pending.WellKept) (fresh : Fresh ⟨.tick now, engine⟩ s) :
    ∃ ended, Handover asked s (s.tick engine now) ended ∧
      ∀ a ∈ ended, Ends ⟨.tick now, engine⟩ s a.ticket := by
  have after : s.after ⟨.tick now, engine⟩ = s.tick engine now := rfl
  have paced : Paced engine s (s.tick engine now) := tick_paced s
  have parked {a : Accepted} {rest : List Accepted} (head : s.queue.items = a :: rest) :
      a.content ∈ s.held := by
    refine List.mem_append_left _ (List.mem_map_of_mem ?_)
    rw [head]
    exact List.mem_cons_self
  generalize s.tick engine now = t at after paced ⊢
  cases paced with
  | rested phase consumer backoff onward => exact ⟨[], .unmoved kept rfl rfl rfl rfl, by simp⟩
  | restored record number phase consumer onward taken =>
    have free : s.pending.find? (.packet number) = none :=
      fresh.free (congrArg effects after) (List.mem_singleton_self _) rfl
    have silent : ∀ entry ∈ s.pending.entries, entry.1 = .packet number → entry.2.replay = none :=
      fun entry member same => absurd same (PendingTable.find?_none free entry member)
    have contents := PendingTable.contents_insert (restoring record) silent
    refine ⟨[], .none (kept.insert_plain _ _ rfl) rfl ?_ rfl _ rfl (.of_ticket?_none rfl),
      by simp⟩
    exact contents.trans (List.append_nil _)
  | notRestored record cause phase consumer onward =>
    exact ⟨[], .none kept rfl rfl rfl _ rfl (.of_ticket?_none rfl), by simp⟩
  | replayed a rest number consumer onward head taken =>
    have free : s.pending.find? (.packet number) = none :=
      fresh.free (congrArg effects after) (List.mem_singleton_self _)
        (Request.call_id a.request number)
    obtain ⟨keeps, contents⟩ := contents_send number a (a.request.onAck.map .pooled) kept free
    refine ⟨[], .old keeps rfl ?_ _ rfl (.of_known a.content (.inl (parked head)) _), by simp⟩
    simp only [held, contents, head, List.map_cons]
    refine List.perm_iff_count.mpr fun content => ?_
    simp only [List.count_append, List.count_cons, List.count_nil]
    omega
  | putBack a rest cause consumer onward head refused transient =>
    exact ⟨[], .none kept rfl rfl rfl _ rfl (.of_known a.content (.inl (parked head)) _), by simp⟩
  | discarded a rest cause consumer onward head refused permanent =>
    refine ⟨[a.content], .old kept rfl ?_ _ (List.append_assoc _ _ _) ?_, ?_⟩
    · simp only [held, head, List.map_cons]
      refine List.perm_iff_count.mpr fun content => ?_
      simp only [List.count_append, List.count_cons, List.count_nil]
      omega
    · exact (SendsOnly.of_known a.content (.inl (parked head)) _).append
        (.of_uncalled (told_uncalled _ _ _))
    · intro content member
      rw [List.mem_singleton.mp member]
      refine .refused now a rest cause rfl head rfl refused permanent ?_
      rw [since_of_append ((congrArg effects after).trans (List.append_assoc _ _ _))]
      exact List.subset_append_right _ _

/-! ### Dispatch -/

theorem unanswered_contents (kept : s.pending.WellKept) :
    (((s.unanswered.filter s.isKept).filterMap (·.2.replayed)).map Accepted.content ++
      (s.unanswered.filter fun entry => !s.isKept entry).filterMap (·.2.content?)).Perm
      s.pending.contents := by
  have restored : ((s.unanswered.filter s.isKept).filterMap (·.2.replayed)).map Accepted.content =
      (s.unanswered.filter s.isKept).filterMap (·.2.content?) := by
    rw [List.map_filterMap]
    exact List.filterMap_congr fun entry _ => entry.2.content?_replayed
  have all : s.unanswered.filterMap (·.2.content?) = s.pending.inFlight.filterMap (·.2.content?) := by
    unfold unanswered
    rw [List.filterMap_filter]
    refine List.filterMap_congr fun entry member => ?_
    cases replay : entry.2.replay with
    | none => simp [PendingEntry.content?, replay]
    | some a =>
      have fresh := (kept.packets _ (PendingTable.mem_inFlight.mp member) (by rw [replay]; rfl)).2
      simp only at fresh
      simp [fresh]
  rw [restored, ← List.filterMap_append]
  refine ((List.filter_append_perm s.isKept s.unanswered).filterMap _).trans ?_
  rw [all]
  exact PendingTable.contents_inFlight kept

theorem handover_hungUp {code : UInt8} (kept : s.pending.WellKept) (hungUp : HungUp code s t) :
    ∃ ended, Handover asked s t ended ∧ ∀ a ∈ ended,
      s.phase = .userDisconnect ∧ a.ticket ∈ s.inFlightTickets ∨
      s.queue.isDisabled ∧ ∃ number entry, (number, entry) ∈ s.pending.inFlight ∧
        entry.ticket? = some a.ticket ∧
        told (.packet number) entry.responder .discarded ⊆ since s t := by
  have leaving : Uncalled s.farewell := .hooks s.farewell_isHook
  cases hungUp with
  | closed phase =>
    refine ⟨s.pending.contents, ?_, fun a member => .inl ⟨phase, ?_⟩⟩
    · refine .old .empty rfl (List.Perm.of_eq ?_) _ rfl
        (.of_uncalled (leaving.append ((answered_uncalled _ _ _).append (.single rfl))))
      simp [held, PendingTable.contents]
    · exact (inFlightTickets_perm kept).symm.subset (List.mem_map_of_mem member)
  | idle phase => exact ⟨[], .none kept rfl rfl rfl _ rfl (.of_uncalled leaving), by simp⟩
  | connecting phase => exact ⟨[], .none kept rfl rfl rfl _ rfl (.of_uncalled leaving), by simp⟩
  | lost established =>
    refine ⟨(s.unanswered.filter fun entry => !s.isKept entry).filterMap (·.2.content?), ?_, ?_⟩
    · refine .old (kept.filter _) rfl ?_ _ rfl
        (.of_uncalled (leaving.append (discarded_uncalled _)))
      simp only [held, OfflineQueue.restore, List.map_append,
        PendingTable.contents_withoutPackets kept]
      have balanced := (unanswered_contents kept).count_eq
      refine List.perm_iff_count.mpr fun content => ?_
      have here := balanced content
      simp only [List.count_append, List.count_nil] at here ⊢
      omega
    · intro content member
      obtain ⟨⟨number, entry⟩, left, keeps⟩ := List.mem_filterMap.mp member
      obtain ⟨waiting, notKept⟩ := List.mem_filter.mp left
      refine .inr ⟨?_, number, entry, (List.mem_filter.mp waiting).1, ?_, ?_⟩
      · have replay : entry.replay.isSome := by
          obtain ⟨a, stored, _⟩ := Option.map_eq_some_iff.mp keeps
          rw [stored]
          rfl
        simpa [isKept, replay] using notKept
      · rw [← entry.content?_ticket, keeps]
        rfl
      · rw [since_of_append rfl]
        intro e telling
        exact List.mem_append_right _ (List.mem_flatMap.mpr ⟨_, left, telling⟩)

theorem handover_erase (id : RequestId) (entry : PendingEntry) (kept : s.pending.WellKept)
    (found : s.pending.find? id = some entry) (queue : t.queue = s.queue)
    (pending : t.pending = s.pending.erase id) (issued : t.nextTicket = s.nextTicket)
    (effects : List Effect) (appended : t.effects = s.effects ++ effects)
    (uncalled : Uncalled effects) : Handover asked s t entry.content?.toList := by
  refine .old (by rw [pending]; exact kept.erase id) issued ?_ effects appended
    (.of_uncalled uncalled)
  have taken := (PendingTable.contents_erase kept entry found).count_eq
  refine List.perm_iff_count.mpr fun content => ?_
  have here := taken content
  simp only [held, queue, pending, List.count_append] at here ⊢
  omega

theorem Handover.of_events {ended : List Accepted} (events : EventQueue)
    (handover : Handover asked { s with events } t ended) : Handover asked s t ended :=
  ⟨handover.kept, handover.balance, handover.sent⟩

theorem handover_dispatch (kept : s.pending.WellKept) :
    ∃ ended, Handover asked s (s.dispatch engine now) ended ∧
      ∀ a ∈ ended, Ends ⟨.dispatch now, engine⟩ s a.ticket := by
  have after : s.after ⟨.dispatch now, engine⟩ = s.dispatch engine now := rfl
  have dispatched : Dispatched now s (s.dispatch engine now) := dispatch_dispatched s
  have answering := answered_uncalled s.pending .connect
  have plain := kept.erase .connect
  have same : (s.pending.erase .connect).contents = s.pending.contents :=
    kept.contents_erase_plain fun _ => rfl
  generalize s.dispatch engine now = t at after dispatched ⊢
  cases dispatched with
  | idle none => exact ⟨[], .unmoved kept rfl rfl rfl rfl, by simp⟩
  | handled e next t handled =>
    cases handled with
    | welcomed kind connecting =>
      exact ⟨[], .none plain rfl same rfl _ rfl
        (.of_uncalled ((answering _).append (.hooks (hooked_isHook _ _ fun _ => rfl)))), by simp⟩
    | turnedAway code kind refused connecting =>
      exact ⟨[], .none plain rfl same rfl _ rfl
        (.of_uncalled ((answering _).append (.single rfl))), by simp⟩
    | unheeded code kind elsewhere =>
      exact ⟨[], .none plain rfl same rfl _ rfl (.of_uncalled (answering _)), by simp⟩
    | hungUp code kind t hungUp =>
      obtain ⟨ended, handover, ends⟩ :=
        handover_hungUp (s := { s with events := s.events.next.2 }) kept hungUp
      refine ⟨ended, handover.of_events, fun a member => ?_⟩
      rcases ends a member with
        ⟨phase, inFlight⟩ | ⟨disabled, number, entry, inFlight, keeps, told⟩
      · exact .cleared now code e rfl next kind phase inFlight
      · refine .lost now code e number entry rfl next kind disabled inFlight keeps ?_
        rw [after]
        exact told
    | unknown ack of unknown => exact ⟨[], .unmoved kept rfl rfl rfl rfl, by simp⟩
    | acknowledged ack of entry found consumer recovery =>
      refine ⟨_, handover_erase e.id entry kept found rfl rfl rfl _ rfl (told_uncalled _ _ _), ?_⟩
      intro a member
      have content : entry.content? = some a := Option.mem_toList.mp member
      have keeps : entry.ticket? = some a.ticket := by
        rw [← entry.content?_ticket, content]
        rfl
      have stored := PendingTable.mem_of_find? found
      cases id : e.id with
      | packet number =>
        rw [id] at found
        exact .acknowledged now e number entry rfl next (by rw [of]; rfl) id found keeps
      | _ =>
        rw [id] at stored
        rw [kept.content?_of_not_packet _ stored rfl] at content
        exact absurd content (Option.some_ne_none a).symm
    | delivered m kind consumer effects same hooks =>
      exact ⟨[], .none kept rfl rfl rfl effects rfl (.of_uncalled (.hooks hooks)), by simp⟩

end Session

end DurableMqtt
