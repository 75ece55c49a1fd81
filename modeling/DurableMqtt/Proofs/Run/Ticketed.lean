import DurableMqtt.Proofs.Run.Admission
import DurableMqtt.Proofs.Run.Interleaving
import DurableMqtt.Proofs.Run.Replay

/-!
The queue of a session in whatever order the sides act.

Its bound is read from a signed number, and each ticket that is parked, or may be parked again when
the session is lost, was issued before. So what is asked for next stands out by its tickets.
-/

namespace DurableMqtt.Session

/-- What holds of the queue and of the table at any point. -/
structure Ticketed (s : Session) : Prop where
  bound : ∃ n, s.queue.capacity = .ofInt n
  queued : ∀ a ∈ s.queue.items, a.ticket < s.nextTicket
  inFlight : ∀ entry ∈ s.pending.entries, ∀ a, entry.2.replay = some a → a.ticket < s.nextTicket

variable {s t : Session} {engine : Engine} {now : Instant}

namespace Ticketed

theorem start (settings : Settings) : Ticketed (start settings) where
  bound := ⟨settings.queueCapacity, rfl⟩
  queued := fun _ member => absurd member List.not_mem_nil
  inFlight := fun _ member => absurd member List.not_mem_nil

theorem of_same (ticketed : Ticketed s) (queue : t.queue = s.queue)
    (issued : t.nextTicket = s.nextTicket)
    (entries : ∀ entry ∈ t.pending.entries, entry ∈ s.pending.entries ∨ entry.2.replay = none) :
    Ticketed t where
  bound := by
    rw [queue]
    exact ticketed.bound
  queued := by
    rw [queue, issued]
    exact ticketed.queued
  inFlight := by
    intro entry member a replay
    rw [issued]
    rcases entries entry member with old | plain
    · exact ticketed.inFlight entry old a replay
    · exact absurd (plain.symm.trans replay) (Option.some_ne_none a).symm

theorem of_pending (ticketed : Ticketed s) (queue : t.queue = s.queue)
    (issued : t.nextTicket = s.nextTicket) (pending : t.pending = s.pending) : Ticketed t :=
  ticketed.of_same queue issued fun _ member => .inl (pending ▸ member)

theorem of_insert (ticketed : Ticketed s) {id : RequestId} {e : PendingEntry}
    (plain : e.replay = none) (queue : t.queue = s.queue) (issued : t.nextTicket = s.nextTicket)
    (pending : t.pending = s.pending.insert id e) : Ticketed t := by
  apply ticketed.of_same queue issued
  intro entry member
  rw [pending] at member
  rcases mem_insert member with old | new
  · exact .inl old
  · exact .inr (new ▸ plain)

theorem of_attempted {a : Accepted} {rest : List Accepted} {consumer : Consumer}
    (ticketed : Ticketed s) (items : s.queue.items = a :: rest)
    (attempted : Attempted engine a rest consumer s t) : Ticketed t := by
  have head : a.ticket < s.nextTicket := ticketed.queued a (items ▸ List.mem_cons_self)
  have others : ∀ b ∈ rest, b.ticket < s.nextTicket :=
    fun b member => ticketed.queued b (items ▸ List.mem_cons_of_mem a member)
  cases attempted with
  | accepted number taken =>
    refine ⟨ticketed.bound, others, fun entry member b replay => ?_⟩
    rcases mem_insert member with old | rfl
    · exact ticketed.inFlight entry old b replay
    · cases replay
      exact head
  | putOff cause refused transient => exact ticketed.of_pending rfl rfl rfl
  | discarded cause refused permanent => exact ⟨ticketed.bound, others, ticketed.inFlight⟩

theorem loseSession (ticketed : Ticketed s) : Ticketed s.loseSession := by
  rw [loseSession_eq]
  refine ⟨ticketed.bound, fun a member => ?_, fun entry member => ?_⟩
  · rcases List.mem_append.mp member with again | parked
    · obtain ⟨entry, kept, replayed⟩ := List.mem_filterMap.mp again
      have stood := PendingTable.mem_inFlight.mp (List.mem_of_mem_filter (List.mem_of_mem_filter kept))
      obtain ⟨b, replay, rfl⟩ := Option.map_eq_some_iff.mp replayed
      exact ticketed.inFlight _ stood b replay
    · exact ticketed.queued a parked
  · exact ticketed.inFlight entry (List.mem_of_mem_filter member)

theorem resubscribeNext (ticketed : Ticketed s) (r : Recovery) :
    Ticketed (s.resubscribeNext engine r) := by
  unfold Session.resubscribeNext
  split
  next record unsent outstanding stage =>
    rw [resubscribe_eq]
    cases engine (.subscribe record.topic record.qos) with
    | ok number => exact ticketed.of_insert (e := restoring record) rfl rfl rfl rfl
    | error cause => exact ticketed.of_pending rfl rfl rfl
  next => exact ticketed

theorem resubscribeOne (ticketed : Ticketed s) (interval : Duration) :
    Ticketed (s.resubscribeOne engine now interval) := by
  unfold Session.resubscribeOne
  cases s.consumer.recovery with
  | none => exact ticketed
  | some r =>
    have sent : Ticketed (s.resubscribeNext engine r) := ticketed.resubscribeNext r
    simp only [scheduleTick_rescheduled, enterDraining_eq]
    split
    · exact sent.of_pending rfl rfl rfl
    · split
      · split <;> exact sent.of_pending rfl rfl rfl
      · exact sent.of_pending rfl rfl rfl

theorem perform (ticketed : Ticketed s) (chore : Chore) :
    Ticketed (s.perform engine now chore).2 := by
  have erased (id : RequestId) : ∀ entry ∈ (s.pending.erase id).entries,
      entry ∈ s.pending.entries ∨ entry.2.replay = none :=
    fun _ member => .inl (List.mem_of_mem_filter member)
  cases chore with
  | answer id ack =>
    simp only [Session.perform, answer_eq]
    exact ticketed.of_same rfl rfl (erased id)
  | welcome =>
    simp only [Session.perform, welcome_eq]
    split <;> exact ticketed.of_pending rfl rfl rfl
  | refuse =>
    simp only [Session.perform, refuse]
    split <;> exact ticketed.of_pending rfl rfl rfl
  | leave code epoch =>
    simp only [Session.perform, leave, goOffline_eq]
    split <;> exact ticketed.of_pending rfl rfl rfl
  | loseSession => exact ticketed.loseSession
  | clearPending =>
    exact ⟨ticketed.bound, ticketed.queued, fun _ member => absurd member List.not_mem_nil⟩
  | acknowledge id ack =>
    simp only [Session.perform]
    cases found : s.pending.find? id with
    | none =>
      rw [acknowledge_unknown now id ack s found]
      exact ticketed
    | some entry =>
      obtain ⟨consumer, settled, -⟩ := acknowledge_eq now id ack entry s found
      rw [settled]
      exact ticketed.of_same rfl rfl (erased id)
  | deliver m =>
    obtain ⟨consumer, effects, delivered, -⟩ := deliver_eq m s
    simp only [Session.perform, delivered]
    exact ticketed.of_pending rfl rfl rfl
  | pace =>
    simp only [Session.perform, pace]
    split
    · split <;> exact ticketed.of_pending rfl rfl rfl
    · exact ticketed.of_pending rfl rfl rfl
  | resubscribeOne interval => exact ticketed.resubscribeOne interval
  | drainOne interval =>
    simp only [Session.perform]
    cases items : s.queue.items with
    | nil =>
      simp only [drainOne, OfflineQueue.pop, items]
      split <;> exact ticketed.of_pending rfl rfl rfl
    | cons a rest => exact ticketed.of_attempted items (drainOne_attempted interval s items)
  | _ => exact ticketed.of_pending rfl rfl rfl

/-! ### The other sides -/

theorem request (ticketed : Ticketed s) (request : Request) (caller : Caller) :
    Ticketed (s.route engine request caller).2 := by
  have routed : Routed engine ⟨s.nextTicket, request.withListener caller.listener⟩ caller.responder s
      (s.route engine request caller) := route_routed request caller s
  generalize s.route engine request caller = result at routed ⊢
  have older : ∀ a ∈ s.queue.items, a.ticket < s.nextTicket + 1 :=
    fun a member => (ticketed.queued a member).trans (Nat.lt_succ_self _)
  have joined {items : List Accepted} (part : items ⊆ s.queue.items) :
      ∀ a ∈ items ++ [⟨s.nextTicket, request.withListener caller.listener⟩],
        a.ticket < s.nextTicket + 1 := by
    intro a member
    rcases List.mem_append.mp member with old | new
    · exact older a (part old)
    · rw [List.mem_singleton.mp new]
      exact Nat.lt_succ_self _
  have kept : ∀ entry ∈ s.pending.entries, ∀ a, entry.2.replay = some a →
      a.ticket < s.nextTicket + 1 :=
    fun entry member a replay => (ticketed.inFlight entry member a replay).trans (Nat.lt_succ_self _)
  cases routed with
  | rejected cause => exact ticketed
  | parked recovering => exact ⟨ticketed.bound, joined (List.Subset.refl _), kept⟩
  | evicting cause limit capacity full policy recovering =>
    exact ⟨ticketed.bound, joined (List.drop_subset 1 _), kept⟩
  | sent number taken ready =>
    refine ⟨ticketed.bound, older, fun entry member a replay => ?_⟩
    rcases mem_insert member with old | rfl
    · exact kept entry old a replay
    · cases replay
      exact Nat.lt_succ_self _
  | refused error cause refused ready => exact ticketed.of_pending rfl rfl rfl

theorem after (ticketed : Ticketed s) (m : Move) (others : m.isConsumers = false) :
    Ticketed (s.after m) := by
  obtain ⟨step, engine⟩ := m
  cases step with
  | connect caller =>
    change Ticketed (s.connect engine caller).2
    rw [connect_eq]
    split
    · cases engine (.connect s.settings.keepAlive) with
      | ok number =>
        exact ticketed.of_insert (e := { responder := caller.responder }) rfl rfl rfl rfl
      | error cause => exact ticketed.of_pending rfl rfl rfl
    · exact ticketed
  | disconnect caller =>
    have closed {t : Session} (queue : t.queue = s.queue) (issued : t.nextTicket = s.nextTicket)
        (pending : t.pending = s.pending.insert .disconnect { responder := caller.responder }) :
        Ticketed t := ticketed.of_insert rfl queue issued pending
    change Ticketed (s.disconnect engine caller).2
    rw [disconnect_eq]
    simp only
    split
    · cases engine .disconnect <;> exact closed rfl rfl rfl
    · exact closed rfl rfl rfl
  | request request caller => exact ticketed.request request caller
  | configureQueue capacity policy =>
    exact ⟨⟨capacity, rfl⟩,
      fun a member => ticketed.queued a ((OfflineQueue.trim_sublist _ policy s.queue.items).subset member),
      ticketed.inFlight⟩
  | adjust adjustment =>
    obtain ⟨settings, hooks, backoff, adjusted⟩ := adjust_eq adjustment s
    change Ticketed (s.adjust adjustment)
    rw [adjusted]
    exact ticketed.of_pending rfl rfl rfl
  | supervise now =>
    have supervised : Supervised engine s (s.supervise engine now) := supervise_supervised s
    change Ticketed (s.supervise engine now)
    generalize s.supervise engine now = t at supervised ⊢
    cases supervised with
    | connected slept number attempting opened taken => exact ticketed.of_insert (e := {}) rfl rfl rfl rfl
    | _ => exact ticketed.of_pending rfl rfl rfl
  | report report => exact ticketed.of_pending rfl rfl rfl
  | expire timer => exact ticketed.of_pending rfl rfl rfl
  | dispatch now => exact absurd others Bool.false_ne_true.symm
  | tick now => exact absurd others Bool.false_ne_true.symm

theorem act (ticketed : Ticketed s) (a : Act) : Ticketed (s.act a) := by
  cases a with
  | move m others => exact ticketed.after m others
  | turn now =>
    change Ticketed (s.turn now)
    unfold Session.turn
    split
    · exact ticketed
    · split
      · exact ticketed.of_pending rfl rfl rfl
      · split <;> exact ticketed.of_pending rfl rfl rfl
      · exact ticketed
  | work engine now =>
    change Ticketed (s.work engine now)
    unfold Session.work
    split
    next => exact ticketed
    next chore rest chores =>
      have done : Ticketed (Session.perform engine now chore (s.withChores rest)).2 :=
        (ticketed.of_pending (t := s.withChores rest) rfl rfl rfl).perform chore
      simp only
      split
      · exact done
      · exact done.of_pending rfl rfl rfl

theorem acted (ticketed : Ticketed s) (acts : List Act) : Ticketed (acted acts s) := by
  induction acts generalizing s with
  | nil => exact ticketed
  | cons a rest ih => exact ih (ticketed.act a)

end Ticketed

end DurableMqtt.Session
