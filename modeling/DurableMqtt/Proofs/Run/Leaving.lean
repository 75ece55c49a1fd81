import DurableMqtt.Proofs.Run.Passage
import DurableMqtt.Proofs.Run.Reply

/-!
How requests leave a session.

A step that takes a request out either answers it or drops it without a word, and never both. What
has left stays out, so a request is answered once at most in a whole run.
-/

namespace DurableMqtt.Session

/-- The requests that a step drops without a word: those that give way in the queue, and those
in flight when the application has closed their session. -/
def dropped (m : Move) (s : Session) : List Nat :=
  match m.step with
  | .request .. | .configureQueue .. => s.queuedTickets.filter (· ∉ (s.after m).queuedTickets)
  | .dispatch _ => if s.phase = .userDisconnect ∧ hangsUp m s then s.inFlightTickets else []
  | _ => []

def droppedAlong : List Move → Session → List Nat
  | [], _ => []
  | m :: rest, s => dropped m s ++ droppedAlong rest (s.after m)

def leaving (m : Move) (s : Session) : List Nat :=
  (replies m s).filterMap Reply.ticket? ++ dropped m s

variable {s t : Session} {m : Move} {engine : Engine} {now : Instant} {ticket : Nat}

/-! ### One step -/

/-- What leaves the session in a step was held before it, and is held no more. -/
structure Leaves (s t : Session) (tickets : List Nat) : Prop where
  once : tickets.Nodup
  held : ∀ ticket ∈ tickets, ticket ∈ s.heldTickets
  gone : ∀ ticket ∈ tickets, ticket ∉ t.heldTickets

theorem Leaves.none : Leaves s t [] where
  once := List.nodup_nil
  held := fun _ member => absurd member List.not_mem_nil
  gone := fun _ member => absurd member List.not_mem_nil

theorem Leaves.single {ticket : Nat} (held : ticket ∈ s.heldTickets)
    (gone : ticket ∉ t.heldTickets) : Leaves s t [ticket] where
  once := List.nodup_singleton ticket
  held := fun _ member => List.mem_singleton.mp member ▸ held
  gone := fun _ member => List.mem_singleton.mp member ▸ gone

theorem mem_heldTickets {ticket : Nat} :
    ticket ∈ s.heldTickets ↔
      ticket ∈ s.queuedTickets ∨ ticket ∈ s.pending.contents.map Accepted.ticket := by
  unfold heldTickets held queuedTickets
  rw [List.map_append, List.map_map, List.mem_append]
  rfl

theorem Custody.apart (custody : Custody s) {ticket : Nat} (parked : ticket ∈ s.queuedTickets) :
    ticket ∉ s.pending.contents.map Accepted.ticket := by
  have once := custody.once
  unfold heldTickets held at once
  rw [List.map_append, List.map_map] at once
  exact fun sent => (List.nodup_append.mp once).2.2 ticket parked ticket sent rfl

theorem Custody.parkedOnce (custody : Custody s) : s.queuedTickets.Nodup := by
  have parted := (heldTickets_perm custody.kept).nodup_iff.mp custody.once
  exact (List.nodup_append.mp parted).1

theorem Custody.inFlightOnce (custody : Custody s) :
    (s.pending.contents.map Accepted.ticket).Nodup := by
  have parted := (heldTickets_perm custody.kept).nodup_iff.mp custody.once
  exact (inFlightTickets_perm custody.kept).nodup_iff.mp (List.nodup_append.mp parted).2.1

theorem Leaves.of_queue (custody : Custody s)
    (pending : t.pending = s.pending ∨ t.queue = s.queue) :
    Leaves s t (s.queuedTickets.filter (· ∉ t.queuedTickets)) where
  once := custody.parkedOnce.filter _
  held := fun ticket member => mem_heldTickets.mpr (.inl (List.mem_filter.mp member).1)
  gone := by
    intro ticket member held
    obtain ⟨parked, gone⟩ := List.mem_filter.mp member
    have gone : ticket ∉ t.queuedTickets := of_decide_eq_true gone
    rcases mem_heldTickets.mp held with still | sent
    · exact gone still
    · rcases pending with pending | queue
      · rw [pending] at sent
        exact custody.apart parked sent
      · rw [queuedTickets, queue] at gone
        exact gone parked

theorem ticket_mem_contents {table : PendingTable} {id : RequestId}
    {entry : PendingEntry} {ticket : Nat} (member : (id, entry) ∈ table.entries)
    (keeps : entry.ticket? = some ticket) : ticket ∈ table.contents.map Accepted.ticket := by
  obtain ⟨a, replay, same⟩ := Option.map_eq_some_iff.mp keeps
  refine List.mem_map.mpr ⟨a.content, List.mem_filterMap.mpr ⟨(id, entry), member, ?_⟩, same⟩
  exact congrArg (Option.map Accepted.content) replay

theorem replyTo_tickets_plain (kept : s.pending.WellKept) (ack : Ack) {id : RequestId}
    (other : ∀ e, PendingTable.asPacket? (id, e) = none) :
    (s.replyTo id ack).filterMap Reply.ticket? = [] := by
  unfold replyTo
  cases found : s.pending.find? id with
  | none => rfl
  | some entry =>
    have silent := kept.content?_of_not_packet _ (PendingTable.mem_of_find? found) (other entry)
    have ticket : entry.ticket? = none := by
      rw [← entry.content?_ticket, silent]
      rfl
    exact List.filterMap_cons_none ticket

theorem leaves_acknowledged (custody : Custody s) (id : RequestId) (ack : Ack)
    (entry : PendingEntry) (found : s.pending.find? id = some entry) (queue : t.queue = s.queue)
    (pending : t.pending = s.pending.erase id) :
    Leaves s t ((s.replyTo id ack).filterMap Reply.ticket?) := by
  unfold replyTo
  rw [found]
  cases keeps : entry.ticket? with
  | none =>
    have tickets : [entry.reply id ack].filterMap Reply.ticket? = [] :=
      List.filterMap_cons_none keeps
    rw [Option.toList_some, List.map_singleton, tickets]
    exact .none
  | some ticket =>
    have tickets : [entry.reply id ack].filterMap Reply.ticket? = [ticket] :=
      List.filterMap_cons_some keeps
    rw [Option.toList_some, List.map_singleton, tickets]
    have sent := ticket_mem_contents (PendingTable.mem_of_find? found) keeps
    refine .single (mem_heldTickets.mpr (.inr sent)) fun held => ?_
    rcases mem_heldTickets.mp held with parked | left
    · rw [queuedTickets, queue] at parked
      exact custody.apart parked sent
    · have split := (PendingTable.contents_erase custody.kept entry found).map Accepted.ticket
      have content : entry.content?.toList.map Accepted.ticket = [ticket] := by
        rw [← Option.toList_map, entry.content?_ticket, keeps]
        rfl
      rw [List.map_append, content] at split
      rw [pending] at left
      exact (List.nodup_cons.mp (split.nodup_iff.mp custody.inFlightOnce)).1 left

theorem leaves_lost (custody : Custody s)
    (queue : t.queue = s.queue.restore ((s.unanswered.filter s.isKept).filterMap (·.2.replayed)))
    (pending : t.pending = s.pending.withoutPackets) :
    Leaves s t (s.discards.filterMap Reply.ticket?) := by
  have tickets : s.discards.filterMap Reply.ticket? =
      ((s.unanswered.filter fun entry => !s.isKept entry).filterMap (·.2.content?)).map
        Accepted.ticket := by
    unfold discards
    rw [List.filterMap_map, List.map_filterMap]
    exact List.filterMap_congr fun entry _ => entry.2.content?_ticket.symm
  have balance := (unanswered_contents custody.kept).map Accepted.ticket
  rw [List.map_append] at balance
  obtain ⟨_, once, apart⟩ := List.nodup_append.mp (balance.nodup_iff.mpr custody.inFlightOnce)
  have sent : ∀ ticket ∈ s.discards.filterMap Reply.ticket?,
      ticket ∈ s.pending.contents.map Accepted.ticket := by
    intro ticket member
    rw [tickets] at member
    exact balance.subset (List.mem_append_right _ member)
  constructor
  · rw [tickets]
    exact once
  · exact fun ticket member => mem_heldTickets.mpr (.inr (sent ticket member))
  · intro ticket member held
    rw [mem_heldTickets, queuedTickets, queue, pending,
      PendingTable.contents_withoutPackets custody.kept, OfflineQueue.restore, List.map_append,
      List.mem_append] at held
    rcases held with (restored | parked) | none
    · rw [tickets] at member
      refine apart ticket ?_ ticket member rfl
      rw [List.map_map]
      exact restored
    · exact custody.apart parked (sent ticket member)
    · exact absurd none List.not_mem_nil

theorem leaves_closed (custody : Custody s) (queue : t.queue = s.queue)
    (pending : t.pending = {}) : Leaves s t s.inFlightTickets where
  once := (inFlightTickets_perm custody.kept).nodup_iff.mpr custody.inFlightOnce
  held := fun ticket member =>
    mem_heldTickets.mpr (.inr ((inFlightTickets_perm custody.kept).mem_iff.mp member))
  gone := by
    intro ticket member held
    have sent := (inFlightTickets_perm custody.kept).mem_iff.mp member
    rw [mem_heldTickets, queuedTickets, queue, pending] at held
    rcases held with parked | none
    · exact custody.apart parked sent
    · exact absurd none List.not_mem_nil

theorem leaving_of_undropped (undropped : dropped m s = []) :
    leaving m s = (replies m s).filterMap Reply.ticket? := by
  rw [leaving, undropped, List.append_nil]

theorem hangsUp_of_next {e : Event} (next : s.nextEvent? = some e) :
    hangsUp ⟨.dispatch now, engine⟩ s = e.isDisconnect := by
  have seen : dispatched? ⟨.dispatch now, engine⟩ s = some e := next
  rw [hangsUp, seen]
  rfl

theorem dropped_dispatch {e : Event} (next : s.nextEvent? = some e) :
    dropped ⟨.dispatch now, engine⟩ s =
      if s.phase = .userDisconnect ∧ e.isDisconnect then s.inFlightTickets else [] := by
  simp only [dropped, hangsUp_of_next next]

theorem leaves_dispatch (custody : Custody s) :
    Leaves s (s.dispatch engine now) (leaving ⟨.dispatch now, engine⟩ s) := by
  have dispatched : Dispatched now s (s.dispatch engine now) := dispatch_dispatched s
  generalize s.dispatch engine now = t at dispatched ⊢
  have connack {e : Event} (next : s.nextEvent? = some e) (code : UInt8)
      (kind : e.kind = .connack code) : leaving ⟨.dispatch now, engine⟩ s = [] := by
    have undropped : dropped ⟨.dispatch now, engine⟩ s = [] := by
      rw [dropped_dispatch next, Event.isDisconnect, kind]
      exact if_neg fun both => absurd both.2 Bool.false_ne_true
    rw [leaving_of_undropped undropped, replies_dispatch next, eventReplies, kind]
    exact replyTo_tickets_plain custody.kept _ fun _ => rfl
  cases dispatched with
  | idle none =>
    have quiet : leaving ⟨.dispatch now, engine⟩ s = [] := by
      simp [leaving, replies, dropped, hangsUp, dispatched?, none]
    rw [quiet]
    exact .none
  | handled e next t handled =>
    cases handled with
    | welcomed kind connecting => rw [connack next 0 kind]; exact .none
    | turnedAway code kind refused connecting => rw [connack next code kind]; exact .none
    | unheeded code kind elsewhere => rw [connack next code kind]; exact .none
    | hungUp code kind t hungUp =>
      have ends : e.isDisconnect = true := by rw [Event.isDisconnect, kind]
      rw [leaving, replies_dispatch next, dropped_dispatch next, eventReplies, kind]
      simp only [hangUpReplies, ends, and_true]
      cases hungUp with
      | closed phase =>
        have phase : s.phase = .userDisconnect := phase
        rw [phase, if_pos rfl]
        simp only
        rw [replyTo_tickets_plain custody.kept _ fun _ => rfl]
        exact leaves_closed custody rfl rfl
      | idle phase =>
        have phase : s.phase = .idle := phase
        rw [phase]
        exact .none
      | connecting phase =>
        have phase : s.phase = .connecting := phase
        rw [phase]
        exact .none
      | lost established =>
        have lost := leaves_lost custody (t := { s with
          phase := .abnormalDisconnect
          consumer := { s.consumer with online := false, recovery := none }
          pending := s.pending.withoutPackets
          queue := s.queue.restore ((s.unanswered.filter s.isKept).filterMap (·.2.replayed)) })
          rfl rfl
        cases phase : s.phase with
        | userDisconnect | idle | connecting => simp [phase, Phase.isConnected] at established
        | _ =>
          simp only [reduceCtorEq, ↓reduceIte, List.append_nil]
          exact ⟨lost.once, lost.held, lost.gone⟩
    | unknown ack of unknown =>
      have unknown : s.pending.find? e.id = none := unknown
      have quiet : leaving ⟨.dispatch now, engine⟩ s = [] := by
        rw [leaving, replies_dispatch next, eventReplies_of_ack of, replyTo, unknown,
          dropped_dispatch next, if_neg]
        · rfl
        · rintro ⟨-, closing⟩
          rw [ack?_of_closing closing] at of
          exact absurd of.symm (Option.some_ne_none ack)
      rw [quiet]
      exact .none
    | acknowledged ack of entry found consumer recovery =>
      have undropped : dropped ⟨.dispatch now, engine⟩ s = [] := by
        rw [dropped_dispatch next, if_neg]
        rintro ⟨-, closing⟩
        rw [ack?_of_closing closing] at of
        exact absurd of.symm (Option.some_ne_none ack)
      rw [leaving_of_undropped undropped, replies_dispatch next, eventReplies_of_ack of]
      exact leaves_acknowledged custody e.id ack entry found rfl rfl
    | delivered message kind consumer effects same hooks =>
      have quiet : leaving ⟨.dispatch now, engine⟩ s = [] := by
        rw [leaving, replies_dispatch next, dropped_dispatch next, eventReplies, kind,
          Event.isDisconnect, kind, if_neg]
        · rfl
        · exact fun both => absurd both.2 Bool.false_ne_true
      rw [quiet]
      exact .none

theorem leaves_tick (custody : Custody s) :
    Leaves s (s.tick engine now) (leaving ⟨.tick now, engine⟩ s) := by
  have answers : TickReplies s (s.tick engine now) (replies ⟨.tick now, engine⟩ s) := tickReplies
  rw [leaving_of_undropped rfl]
  generalize replies ⟨.tick now, engine⟩ s = given at answers ⊢
  cases answers with
  | none untold => exact .none
  | discarded a rest head left pending told =>
    have parked : a.ticket ∈ s.queuedTickets := by
      rw [queuedTickets, head]
      exact List.mem_cons_self
    refine .single (mem_heldTickets.mpr (.inl parked)) fun held => ?_
    rcases mem_heldTickets.mp held with still | sent
    · have once := custody.parkedOnce
      rw [queuedTickets, head, List.map_cons] at once
      rw [queuedTickets, left] at still
      exact (List.nodup_cons.mp once).1 still
    · rw [pending] at sent
      exact custody.apart parked sent

theorem leaves_step (custody : Custody s) (m : Move) : Leaves s (s.after m) (leaving m s) := by
  obtain ⟨step, engine⟩ := m
  cases step with
  | request request caller =>
    refine .of_queue custody ?_
    have routed : Routed engine _ _ s (s.route engine request caller) :=
      route_routed request caller s
    change (s.route engine request caller).2.pending = _ ∨
      (s.route engine request caller).2.queue = _
    generalize s.route engine request caller = result at routed ⊢
    cases routed with
    | sent number taken ready => exact .inr rfl
    | _ => exact .inl rfl
  | configureQueue capacity policy => exact .of_queue custody (.inl rfl)
  | dispatch now => exact leaves_dispatch custody
  | tick now => exact leaves_tick custody
  | _ => exact .none

theorem mem_leaving_of_reply {r : Reply} (given : r ∈ replies m s)
    (for' : r.ticket? = some ticket) : ticket ∈ leaving m s :=
  List.mem_append_left _ (List.mem_filterMap.mpr ⟨r, given, for'⟩)

theorem leaving_of_ends (custody : Custody s) (ends : Ends m s ticket)
    (gone : ticket ∉ (s.after m).heldTickets) : ticket ∈ leaving m s := by
  obtain ⟨step, engine⟩ := m
  cases ends with
  | acknowledged now e number entry step next ack identifier found keeps =>
    obtain ⟨ack, of⟩ := Option.isSome_iff_exists.mp ack
    cases step
    refine mem_leaving_of_reply (r := entry.reply e.id ack) ?_ keeps
    rw [replies_dispatch next, eventReplies_of_ack of, replyTo, identifier, found]
    exact List.mem_singleton_self _
  | refused now a rest cause step head same refused permanent answered =>
    cases step
    change ticket ∉ (s.tick engine now).heldTickets at gone
    change ticket ∈ (s.headReplies (since s (s.tick engine now))).filterMap Reply.ticket? ++ []
    have paced : Paced engine s (s.tick engine now) := tick_paced s
    generalize s.tick engine now = t at gone paced ⊢
    have parked : ticket ∈ s.queuedTickets := by
      rw [queuedTickets, head, ← same]
      exact List.mem_cons_self
    have stays (queue : t.queue = s.queue) : ticket ∈ t.heldTickets := by
      refine mem_heldTickets.mpr (.inl ?_)
      rw [queuedTickets, queue]
      exact parked
    cases paced with
    | replayed b others number consumer onward first taken =>
      obtain ⟨rfl, -⟩ := List.cons.inj (head.symm.trans first)
      cases refused.symm.trans taken
    | discarded b others other consumer onward first refusal final =>
      obtain ⟨rfl, -⟩ := List.cons.inj (head.symm.trans first)
      rw [since_of_append (List.append_assoc _ _ _), List.singleton_append,
        headReplies_of_refused first final, ← same]
      exact List.mem_singleton_self _
    | _ => exact absurd (stays rfl) gone
  | lost now code e number entry step next closed disabled inFlight keeps answered =>
    cases step
    have content := (inFlightTickets_perm custody.kept).mem_iff.mpr
      (ticket_mem_contents (PendingTable.mem_inFlight.mp inFlight) keeps)
    have held : ticket ∈ s.heldTickets :=
      (heldTickets_perm custody.kept).mem_iff.mpr (List.mem_append_right _ content)
    have ends : e.isDisconnect = true := by rw [Event.isDisconnect, closed]
    have handled : s.after ⟨.dispatch now, engine⟩ =
        ({ s with events := s.events.next.2 } : Session).hangUp code := by
      change s.dispatch engine now = _
      rw [dispatch_eq s next, handle, closed]
    have hungUp := hangUp_hungUp code { s with events := s.events.next.2 }
    rw [← handled] at hungUp
    rw [leaving, replies_dispatch next, dropped_dispatch next, eventReplies, closed]
    generalize s.after ⟨.dispatch now, engine⟩ = t at gone hungUp
    cases hungUp with
    | closed phase =>
      rw [if_pos ⟨phase, ends⟩]
      exact List.mem_append_right _ content
    | idle phase => exact absurd held gone
    | connecting phase => exact absurd held gone
    | lost established =>
      have plain : entry.resubscribe = false := by
        refine (custody.kept.packets _ (PendingTable.mem_inFlight.mp inFlight) ?_).2
        exact Option.isSome_map.symm.trans (Option.isSome_of_mem keeps)
      have unkept : s.isKept (number, entry) = false := by
        simp only [isKept, disabled, Bool.not_true, Bool.false_and]
      have discards : s.hangUpReplies code = s.discards := by
        unfold hangUpReplies
        cases phase : s.phase with
        | userDisconnect | idle | connecting => simp [phase, Phase.isConnected] at established
        | _ => rfl
      refine List.mem_append_left _ (List.mem_filterMap.mpr
        ⟨entry.reply (.packet number) .discarded, ?_, keeps⟩)
      simp only [discards]
      refine List.mem_map.mpr ⟨(number, entry), List.mem_filter.mpr ⟨?_, by simp [unkept]⟩, rfl⟩
      exact List.mem_filter.mpr ⟨inFlight, by simp [plain]⟩
  | evicted request caller a rest limit step policy capacity full head same =>
    cases step
    have parked : ticket ∈ s.queuedTickets := by
      rw [queuedTickets, head, ← same]
      exact List.mem_cons_self
    have unparked : ticket ∉ (s.after ⟨.request request caller, engine⟩).queuedTickets :=
      fun still => gone (mem_heldTickets.mpr (.inl still))
    exact List.mem_append_right _ (List.mem_filter.mpr ⟨parked, decide_eq_true unparked⟩)
  | trimmed capacity policy step parked unparked =>
    cases step
    exact List.mem_append_right _ (List.mem_filter.mpr ⟨parked, decide_eq_true unparked⟩)
  | cleared now code e step next closed phase inFlight =>
    cases step
    have ends : e.isDisconnect = true := by rw [Event.isDisconnect, closed]
    refine List.mem_append_right _ ?_
    rw [dropped_dispatch next, if_pos ⟨phase, ends⟩]
    exact inFlight

theorem finished_of_leaving (custody : Custody s) (fresh : Fresh m s)
    (leaves : ticket ∈ leaving m s) : ¬s.Finished ticket ∧ (s.after m).Finished ticket := by
  have step := leaves_step custody m
  have held := step.held ticket leaves
  constructor
  · exact fun finished => ((finished_iff custody.kept ticket).mp finished).2 held
  · refine (finished_iff (custody.after m fresh).kept ticket).mpr ⟨?_, step.gone ticket leaves⟩
    exact (custody.issued ticket held).trans_le (nextTicket_after custody m fresh)

theorem leaving_of_finished (custody : Custody s) (fresh : Fresh m s)
    (finished : (s.after m).Finished ticket) : s.Finished ticket ∨ ticket ∈ leaving m s := by
  obtain ⟨ended, handover, ends⟩ := handover_step custody m fresh
  have next := handover.custody custody fun _ => asked?_ticket
  refine (handover.finishes custody (fun _ => asked?_ticket) finished).imp_right fun member => ?_
  obtain ⟨a, out, rfl⟩ := List.mem_map.mp member
  exact leaving_of_ends custody (ends a out) ((finished_iff next.kept _).mp finished).2

/-! ### Runs -/

def leavingAlong : List Move → Session → List Nat
  | [], _ => []
  | m :: rest, s => leaving m s ++ leavingAlong rest (s.after m)

theorem leavingAlong_perm (moves : List Move) (s : Session) :
    (leavingAlong moves s).Perm
      ((repliesAlong moves s).filterMap Reply.ticket? ++ droppedAlong moves s) := by
  induction moves generalizing s with
  | nil => exact List.Perm.refl _
  | cons m rest ih =>
    simp only [leavingAlong, leaving, repliesAlong, droppedAlong, List.filterMap_append]
    refine List.perm_iff_count.mpr fun ticket => ?_
    have later := (ih (s.after m)).count_eq ticket
    simp only [List.count_append] at later ⊢
    omega

theorem finished_of_leavingAlong (moves : List Move) (custody : Custody s)
    (fresh : FreshAlong moves s) (leaves : ticket ∈ leavingAlong moves s) :
    ¬s.Finished ticket ∧ (run moves s).Finished ticket := by
  induction moves generalizing s with
  | nil => exact absurd leaves List.not_mem_nil
  | cons m rest ih =>
    have next := custody.after m fresh.1
    rcases List.mem_append.mp leaves with now | later
    · obtain ⟨unfinished, finished⟩ := finished_of_leaving custody fresh.1 now
      exact ⟨unfinished, (run_finished rest next fresh.2 finished).1⟩
    · obtain ⟨unfinished, finished⟩ := ih next fresh.2 later
      exact ⟨fun before => unfinished (finished_after custody m fresh.1 before), finished⟩

theorem leavingAlong_of_finished (moves : List Move) (custody : Custody s)
    (fresh : FreshAlong moves s) (finished : (run moves s).Finished ticket) :
    s.Finished ticket ∨ ticket ∈ leavingAlong moves s := by
  induction moves generalizing s with
  | nil => exact .inl finished
  | cons m rest ih =>
    rcases ih (custody.after m fresh.1) fresh.2 finished with here | later
    · exact (leaving_of_finished custody fresh.1 here).imp_right (List.mem_append_left _)
    · exact .inr (List.mem_append_right _ later)

/-- No request leaves a session twice. -/
theorem leavingAlong_once (moves : List Move) (custody : Custody s) (fresh : FreshAlong moves s) :
    (leavingAlong moves s).Nodup := by
  induction moves generalizing s with
  | nil => exact List.nodup_nil
  | cons m rest ih =>
    have next := custody.after m fresh.1
    refine List.nodup_append.mpr ⟨(leaves_step custody m).once, ih next fresh.2, ?_⟩
    rintro ticket now _ later rfl
    have finished := (finished_of_leaving custody fresh.1 now).2
    exact (finished_of_leavingAlong rest next fresh.2 later).1 finished

/-- Each departure of a request is an answer to it or a drop. -/
theorem count_leavingAlong (moves : List Move) (s : Session) (ticket : Nat) :
    (leavingAlong moves s).count ticket =
      ((repliesAlong moves s).filter (·.ticket? == some ticket)).length +
        (droppedAlong moves s).count ticket := by
  rw [(leavingAlong_perm moves s).count_eq ticket, List.count_append, List.count_filterMap,
    List.countP_eq_length_filter]

end DurableMqtt.Session
