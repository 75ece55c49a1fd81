import DurableMqtt.Proofs.Run.Provenance

/-!
Who is told of the acknowledgment of which request.

A condition on listeners that every call of a run meets is met by all that the run tells. The
condition is a parameter, so that it can single out one request or one listener.
-/

namespace DurableMqtt

def Effect.listener? : Effect → Option Listener
  | submitted (.acknowledge listener _ _) => some listener
  | released waiter _ => some (.waiter waiter)
  | _ => none

def Reply.listener (r : Reply) : Option Listener := r.responder.map Responder.listener

/-- A request whose listener may hear of it, also when the request is a subscription that comes to
be restored. -/
structure Accepted.Meets (p : Option Nat → Option Listener → Prop) (a : Accepted) : Prop where
  once : p (some a.ticket) a.request.onAck
  restored : a.request.kind = .subscribe → p none a.request.onAck

structure PendingEntry.Meets (p : Option Nat → Option Listener → Prop) (e : PendingEntry) :
    Prop where
  once : p e.ticket? e.listener
  replayed : ∀ a, e.replay = some a → a.request.kind = .subscribe → p none e.listener
  granted : ∀ record, e.effect = .subscribe record → p none record.onAck

namespace Session

/-- Whoever may be told of an acknowledgment meets a condition. -/
structure Audience (p : Option Nat → Option Listener → Prop) (s : Session) : Prop where
  parked : ∀ a ∈ s.queue.items, a.Meets p
  table : ∀ entry ∈ s.pending.entries, entry.2.Meets p
  granted : ∀ record ∈ s.registry.records, p none record.onAck
  unsent : ∀ record ∈ s.unsent, p none record.onAck

variable {p : Option Nat → Option Listener → Prop} {s t : Session} {m : Move}

theorem Audience.start (settings : Settings) : Audience p (start settings) where
  parked := fun _ member => absurd member List.not_mem_nil
  table := fun _ member => absurd member List.not_mem_nil
  granted := fun _ member => absurd member List.not_mem_nil
  unsent := fun _ member => absurd member List.not_mem_nil

/-! ### Entries -/

theorem listener_pooled (listener : Option Listener) :
    (listener.map Responder.pooled).map Responder.listener = listener := by
  cases listener <;> rfl

theorem effect_subscribe {r : Request} {record : Subscription}
    (same : r.effect = .subscribe record) : r.kind = .subscribe ∧ record.onAck = r.onAck := by
  unfold Request.effect at same
  unfold Request.kind
  cases action : r.action with
  | subscribe qos handler =>
    rw [action] at same
    exact ⟨rfl, by rw [← RegistryEffect.subscribe.inj same]⟩
  | publish payload qos retain =>
    rw [action] at same
    cases same
  | unsubscribe =>
    rw [action] at same
    cases same

theorem meets_answer (e : PendingEntry) (plain : e = { responder := e.responder })
    (given : p none e.listener) : e.Meets p := by
  have replay : e.replay = none := by rw [plain]
  have effect : e.effect = .none := by rw [plain]
  constructor
  · rw [PendingEntry.ticket?, replay]
    exact given
  · intro a keeps
    rw [replay] at keeps
    cases keeps
  · intro record grants
    rw [effect] at grants
    cases grants

theorem meets_restoring (record : Subscription) (given : p none record.onAck) :
    (restoring record).Meets p := by
  have same : (restoring record).listener = record.onAck := listener_pooled _
  constructor
  · rw [same]
    exact given
  · exact fun a keeps => absurd keeps.symm (Option.some_ne_none a)
  · intro other grants
    rw [← RegistryEffect.subscribe.inj grants]
    exact given

theorem meets_sent (a : Accepted) (responder : Option Responder)
    (once : p (some a.ticket) (responder.map Responder.listener))
    (again : a.request.kind = .subscribe →
      p none (responder.map Responder.listener) ∧ p none a.request.onAck) :
    (entryOf a responder).Meets p := by
  constructor
  · exact once
  · intro b keeps subscribes
    rw [← Option.some.inj keeps] at subscribes
    exact (again subscribes).1
  · intro record grants
    obtain ⟨subscribes, same⟩ := effect_subscribe grants
    rw [same]
    exact (again subscribes).2

theorem meets_replayed {a : Accepted} (meets : a.Meets p) :
    (entryOf a (a.request.onAck.map .pooled)).Meets p := by
  refine meets_sent a _ ?_ fun subscribes => ?_
  · rw [listener_pooled]
    exact meets.once
  · rw [listener_pooled]
    exact ⟨meets.restored subscribes, meets.restored subscribes⟩

theorem meets_parked {e : PendingEntry} {a : Accepted} (meets : e.Meets p)
    (again : e.replayed = some a) : a.Meets p := by
  obtain ⟨sent, keeps, rfl⟩ := Option.map_eq_some_iff.mp again
  have ticket : e.ticket? = some sent.ticket := by rw [PendingEntry.ticket?, keeps]; rfl
  constructor
  · have once := meets.once
    rw [ticket] at once
    exact once
  · exact fun subscribes => meets.replayed sent keeps subscribes

/-! ### Steps -/

theorem hears_of_recovering {caller : Caller} {phase : Phase}
    (recovering : phase.isRecovering = true) : caller.hears phase = caller.listener := by
  rw [Caller.hears, if_pos recovering]

theorem hears_of_ready {caller : Caller} {phase : Phase} (ready : phase.isRecovering = false) :
    caller.hears phase = caller.responder.map Responder.listener := by
  rw [Caller.hears, if_neg (ne_true_of_eq_false ready)]

theorem brought_request {request : Request} {caller : Caller}
    (step : m.step = .request request caller)
    (brings : ∀ given ∈ brought m s, p given.1 given.2) :
    p (some s.nextTicket) (caller.hears s.phase) ∧
      (request.kind = .subscribe → p none caller.listener ∧ p none (caller.hears s.phase)) := by
  unfold brought at brings
  rw [step] at brings
  refine ⟨brings _ List.mem_cons_self, fun subscribes => ?_⟩
  simp only [if_pos subscribes] at brings
  constructor
  · exact brings (none, caller.listener) (by simp)
  · exact brings (none, caller.hears s.phase) (by simp)

theorem Audience.after (audience : Audience p s)
    (brings : ∀ given ∈ brought m s, p given.1 given.2) : Audience p (s.after m) := by
  have passed := passes m s
  constructor
  case parked =>
    intro a member
    cases passed.parks a member with
    | before parked => exact audience.parked a parked
    | asked request caller step recovering same =>
      obtain ⟨once, again⟩ := brought_request step brings
      rw [hears_of_recovering recovering] at once again
      rw [same]
      exact ⟨once, fun subscribes => (again subscribes).1⟩
    | replayed entry stood again => exact meets_parked (audience.table entry stood) again
  case table =>
    intro entry member
    cases passed.table with
    | kept untaken entries =>
      rcases entries entry member with old | ⟨-, plain, given⟩
      · exact audience.table entry old
      · exact meets_answer entry.2 plain (brings _ given)
    | restored record unsent number effects pending =>
      rw [pending] at member
      rcases mem_insert member with old | new
      · exact audience.table entry old
      · rw [new]
        exact meets_restoring record (audience.unsent record unsent)
    | replayed a rest head number effects pending =>
      rw [pending] at member
      rcases mem_insert member with old | new
      · exact audience.table entry old
      · rw [new]
        refine meets_replayed (audience.parked a ?_)
        rw [head]
        exact List.mem_cons_self
    | asked request caller step ready a same number effects pending =>
      rw [pending] at member
      rcases mem_insert member with old | new
      · exact audience.table entry old
      · obtain ⟨once, again⟩ := brought_request step brings
        rw [hears_of_ready ready] at once again
        rw [new, same]
        exact meets_sent _ _ once fun subscribes => (again subscribes).symm
  case granted =>
    intro record member
    rcases passed.grants record member with old | ⟨entry, stood, grants⟩
    · exact audience.granted record old
    · exact (audience.table entry stood).granted record grants
  case unsent =>
    intro record member
    rcases passed.unsent record member with old | granted
    · exact audience.unsent record old
    · exact audience.granted record granted

theorem Audience.replyTo (audience : Audience p s) (id : RequestId) (ack : Ack) :
    ∀ r ∈ s.replyTo id ack, p r.ticket? r.listener := by
  intro r member
  unfold Session.replyTo at member
  obtain ⟨e, found, rfl⟩ := List.mem_map.mp member
  have stood := PendingTable.mem_of_find? (Option.mem_toList.mp found)
  exact (audience.table _ stood).once

theorem Audience.discards (audience : Audience p s) : ∀ r ∈ s.discards, p r.ticket? r.listener := by
  intro r member
  obtain ⟨⟨number, e⟩, left, rfl⟩ := List.mem_map.mp member
  have inFlight := (List.mem_filter.mp (List.mem_filter.mp left).1).1
  exact (audience.table _ (PendingTable.mem_inFlight.mp inFlight)).once

theorem Audience.replies (audience : Audience p s) (m : Move) :
    ∀ r ∈ replies m s, p r.ticket? r.listener := by
  intro r given
  unfold Session.replies at given
  split at given
  next now =>
    obtain ⟨e, -, given⟩ := List.mem_flatMap.mp given
    unfold eventReplies at given
    split at given
    · exact audience.replyTo _ _ r given
    · unfold hangUpReplies at given
      split at given
      · exact audience.replyTo _ _ r given
      · exact absurd given List.not_mem_nil
      · exact absurd given List.not_mem_nil
      · exact audience.discards r given
    · exact audience.replyTo _ _ r given
    · exact audience.replyTo _ _ r given
    · exact audience.replyTo _ _ r given
    · exact absurd given List.not_mem_nil
  next now =>
    unfold headReplies at given
    split at given
    · exact absurd given List.not_mem_nil
    next a rest head =>
      split at given
      · have parked : a ∈ s.queue.items := by
          rw [head]
          exact List.mem_cons_self
        rw [List.mem_singleton.mp given, Reply.listener, listener_pooled]
        exact (audience.parked a parked).once
      · exact absurd given List.not_mem_nil
  next => exact absurd given List.not_mem_nil

/-! ### Runs -/

theorem Audience.run (audience : Audience p s) (moves : List Move)
    (brings : ∀ given ∈ broughtAlong moves s, p given.1 given.2) :
    Audience p (run moves s) ∧ ∀ r ∈ repliesAlong moves s, p r.ticket? r.listener := by
  induction moves generalizing s with
  | nil => exact ⟨audience, fun r member => absurd member List.not_mem_nil⟩
  | cons m rest ih =>
    have early : ∀ given ∈ brought m s, p given.1 given.2 :=
      fun given member => brings given (List.mem_append_left _ member)
    have late : ∀ given ∈ broughtAlong rest (s.after m), p given.1 given.2 :=
      fun given member => brings given (List.mem_append_right _ member)
    obtain ⟨later, answers⟩ := ih (audience.after early) late
    refine ⟨later, fun r member => ?_⟩
    rcases List.mem_append.mp member with here | there
    · exact audience.replies m r here
    · exact answers r there

theorem listener?_effects (r : Reply) :
    r.effects.filterMap Effect.listener? = r.listener.toList := by
  obtain ⟨ticket, id, responder, ack⟩ := r
  cases responder with
  | none => rfl
  | some responder => cases responder <;> rfl

theorem told_replies (moves : List Move) (s : Session) :
    (since s (Session.run moves s)).filterMap Effect.listener? =
      (repliesAlong moves s).filterMap Reply.listener := by
  have heard (e : Effect) (tells : e.listener?.isSome) : e.ack?.isSome := by
    cases e with
    | submitted job =>
      cases job with
      | acknowledge listener id ack => rfl
      | _ => exact tells
    | released waiter ack => rfl
    | _ => exact tells
  calc (since s (Session.run moves s)).filterMap Effect.listener?
    _ = (tellings (since s (Session.run moves s))).filterMap Effect.listener? := by
      rw [tellings, List.filterMap_filter]
      refine List.filterMap_congr fun e _ => ?_
      cases tells : e.listener? with
      | none => rw [ite_self]
      | some listener => rw [if_pos (heard e (by rw [tells]; rfl))]
    _ = ((repliesAlong moves s).flatMap Reply.effects).filterMap Effect.listener? := by
      rw [tellings_repliesAlong]
    _ = (repliesAlong moves s).flatMap fun r => r.listener.toList := by
      rw [List.filterMap_flatMap]
      exact List.flatMap_congr fun r _ => listener?_effects r
    _ = (repliesAlong moves s).filterMap Reply.listener :=
      (List.filterMap_eq_flatMap_toList _ _).symm

end Session

end DurableMqtt
