import DurableMqtt.Proofs.Run.Handover

/-!
Conservation of requests: whatever a session has taken on is either parked, or in flight, or
finished for one of a few reasons, and what is finished stays so.
-/

namespace DurableMqtt.Session

/-- A request was taken on and is held no more. -/
def Finished (s : Session) (ticket : Nat) : Prop :=
  ticket < s.nextTicket ∧ ticket ∉ s.queuedTickets ∧ ticket ∉ s.inFlightTickets

instance (s : Session) (ticket : Nat) : Decidable (s.Finished ticket) :=
  inferInstanceAs (Decidable (_ ∧ _))

inductive Placed (s : Session) (ticket : Nat) : Prop where
  | queued (once : s.queuedTickets.count ticket = 1) (nowhereElse : ticket ∉ s.inFlightTickets)
  | inFlight (once : s.inFlightTickets.count ticket = 1) (nowhereElse : ticket ∉ s.queuedTickets)
  | finished (finished : s.Finished ticket)

def FreshAlong : List Move → Session → Prop
  | [], _ => True
  | m :: rest, s => Fresh m s ∧ FreshAlong rest (s.after m)

instance FreshAlong.decidable : (moves : List Move) → (s : Session) → Decidable (FreshAlong moves s)
  | [], _ => .isTrue trivial
  | m :: rest, s =>
    have := FreshAlong.decidable rest (s.after m)
    inferInstanceAs (Decidable (Fresh m s ∧ FreshAlong rest (s.after m)))

theorem freshAlong_append (first second : List Move) (s : Session) :
    FreshAlong (first ++ second) s ↔ FreshAlong first s ∧ FreshAlong second (run first s) := by
  induction first generalizing s with
  | nil => exact ⟨fun later => ⟨trivial, later⟩, And.right⟩
  | cons m rest ih =>
    simp only [List.cons_append, FreshAlong, run]
    rw [ih, and_assoc]

variable {s t : Session} {asked : Option Accepted}

theorem finished_iff (kept : s.pending.WellKept) (ticket : Nat) :
    s.Finished ticket ↔ ticket < s.nextTicket ∧ ticket ∉ s.heldTickets := by
  unfold Finished
  rw [(heldTickets_perm kept).mem_iff, List.mem_append, not_or]

/-! ### One step -/

/-- What every step keeps up: each ticket is held once at most, and was issued before. -/
structure Custody (s : Session) : Prop where
  kept : s.pending.WellKept
  once : s.heldTickets.Nodup
  issued : ∀ ticket ∈ s.heldTickets, ticket < s.nextTicket

theorem Custody.start (settings : Settings) : Custody (start settings) where
  kept := .empty
  once := List.nodup_nil
  issued := fun _ member => absurd member List.not_mem_nil

theorem handover_step (custody : Custody s) (m : Move) (fresh : Fresh m s) :
    ∃ ended, Handover (asked? m s) s (s.after m) ended ∧ ∀ a ∈ ended, Ends m s a.ticket := by
  obtain ⟨step, engine⟩ := m
  have once : s.queuedTickets.Nodup := by
    have parted := (heldTickets_perm custody.kept).nodup_iff.mp custody.once
    exact (List.nodup_append.mp parted).1
  have alone {asked : Option Accepted} {t : Session} (handover : Handover asked s t []) :
      ∃ ended, Handover asked s t ended ∧ ∀ a ∈ ended, Ends ⟨step, engine⟩ s a.ticket :=
    ⟨[], handover, by simp⟩
  cases step with
  | connect caller => exact alone (handover_connect caller custody.kept)
  | disconnect caller => exact alone (handover_disconnect caller custody.kept)
  | request request caller => exact handover_request request caller custody.kept fresh
  | configureQueue capacity policy => exact handover_configureQueue capacity policy custody.kept once
  | adjust adjustment => exact alone (handover_adjust adjustment custody.kept)
  | report report => exact alone (.unmoved custody.kept rfl rfl rfl rfl)
  | dispatch now => exact handover_dispatch custody.kept
  | tick now => exact handover_tick custody.kept fresh
  | supervise now => exact alone (handover_supervise custody.kept)
  | expire timer => exact alone (.unmoved custody.kept rfl rfl rfl rfl)

theorem asked?_ticket {m : Move} {a : Accepted} (asks : asked? m s = some a) :
    a.ticket = s.nextTicket := by
  unfold asked? at asks
  split at asks
  · rw [← Option.some.inj asks]
  · exact absurd asks.symm (Option.some_ne_none a)

section

variable {ended : List Accepted}

theorem Handover.tickets (handover : Handover asked s t ended)
    (next : ∀ a, asked = some a → a.ticket = s.nextTicket) :
    s.nextTicket ≤ t.nextTicket ∧
      (t.heldTickets ++ ended.map Accepted.ticket).Perm
        (s.heldTickets ++ List.range' s.nextTicket (t.nextTicket - s.nextTicket)) := by
  obtain ⟨new, known, issued, balance⟩ := handover.balance
  refine ⟨by omega, ?_⟩
  have numbered : new.map Accepted.ticket = List.range' s.nextTicket new.length := by
    cases asked with
    | none => rw [List.sublist_nil.mp known, List.map_nil, List.length_nil, List.range'_zero]
    | some a =>
      rcases List.sublist_singleton.mp known with rfl | rfl
      · rfl
      · rw [List.map_singleton, next a rfl]
        rfl
  rw [issued, Nat.add_sub_cancel_left, ← numbered]
  have tickets := balance.map Accepted.ticket
  rw [List.map_append, List.map_append] at tickets
  exact tickets

theorem Handover.custody (custody : Custody s) (handover : Handover asked s t ended)
    (next : ∀ a, asked = some a → a.ticket = s.nextTicket) : Custody t := by
  obtain ⟨issued, balance⟩ := handover.tickets next
  have apart : ∀ ticket ∈ s.heldTickets, ∀ issued ∈
      List.range' s.nextTicket (t.nextTicket - s.nextTicket), ticket ≠ issued := by
    intro ticket member issued new same
    have old := custody.issued ticket member
    have bound := (List.mem_range'_1.mp new).1
    omega
  have once := balance.nodup_iff.mpr
    (List.nodup_append.mpr ⟨custody.once, List.nodup_range', apart⟩)
  constructor
  · exact handover.kept
  · exact (List.nodup_append.mp once).1
  · intro ticket member
    rcases List.mem_append.mp (balance.subset (List.mem_append_left _ member)) with old | new
    · exact (custody.issued ticket old).trans_le issued
    · have bound := (List.mem_range'_1.mp new).2
      omega

theorem Handover.finishes (custody : Custody s) (handover : Handover asked s t ended)
    (next : ∀ a, asked = some a → a.ticket = s.nextTicket) {ticket : Nat}
    (finished : t.Finished ticket) : s.Finished ticket ∨ ticket ∈ ended.map Accepted.ticket := by
  obtain ⟨issued, gone⟩ := (finished_iff handover.kept ticket).mp finished
  obtain ⟨_, balance⟩ := handover.tickets next
  by_cases old : ticket < s.nextTicket
  · by_cases held : ticket ∈ s.heldTickets
    · have there := balance.symm.subset (List.mem_append_left _ held)
      exact .inr ((List.mem_append.mp there).resolve_left gone)
    · exact .inl ((finished_iff custody.kept ticket).mpr ⟨old, held⟩)
  · have new : ticket ∈ List.range' s.nextTicket (t.nextTicket - s.nextTicket) :=
      List.mem_range'_1.mpr (by omega)
    have there := balance.symm.subset (List.mem_append_right _ new)
    exact .inr ((List.mem_append.mp there).resolve_left gone)

theorem Handover.stays (custody : Custody s) (handover : Handover asked s t ended)
    (next : ∀ a, asked = some a → a.ticket = s.nextTicket) {ticket : Nat}
    (finished : s.Finished ticket) :
    t.Finished ticket ∧ ∀ e ∈ since s t, e.ticket? ≠ some ticket := by
  obtain ⟨old, gone⟩ := (finished_iff custody.kept ticket).mp finished
  obtain ⟨issued, balance⟩ := handover.tickets next
  constructor
  · refine (finished_iff handover.kept ticket).mpr ⟨old.trans_le issued, fun held => ?_⟩
    rcases List.mem_append.mp (balance.subset (List.mem_append_left _ held)) with before | new
    · exact gone before
    · have bound := (List.mem_range'_1.mp new).1
      omega
  · intro e member sends
    cases e with
    | called call answer carried =>
      rw [show carried = some ticket from sends] at member
      obtain ⟨a, held | asks, same, _⟩ := handover.sent call answer ticket member
      · rw [← same] at gone
        exact gone (List.mem_map_of_mem held)
      · have new := next a asks
        omega
    | _ => exact absurd sends.symm (Option.some_ne_none ticket)

theorem Handover.known (handover : Handover asked s t ended) :
    ∀ a ∈ t.held, a ∈ s.held ∨ asked = some a := by
  intro a member
  obtain ⟨new, known, _, balance⟩ := handover.balance
  rcases List.mem_append.mp (balance.subset (List.mem_append_left _ member)) with old | here
  · exact .inl old
  · exact .inr (Option.mem_toList.mp (known.subset here))

end

theorem Custody.placed (custody : Custody s) (ticket : Nat) (issued : ticket < s.nextTicket) :
    Placed s ticket := by
  have parted := (heldTickets_perm custody.kept).nodup_iff.mp custody.once
  obtain ⟨queuedOnce, sentOnce, apart⟩ := List.nodup_append.mp parted
  by_cases queued : ticket ∈ s.queuedTickets
  · exact .queued (List.count_eq_one_of_mem queuedOnce queued)
      fun sent => apart ticket queued ticket sent rfl
  · by_cases sent : ticket ∈ s.inFlightTickets
    · exact .inFlight (List.count_eq_one_of_mem sentOnce sent) queued
    · exact .finished ⟨issued, queued, sent⟩

/-! ### Runs -/

theorem Custody.after (custody : Custody s) (m : Move) (fresh : Fresh m s) :
    Custody (s.after m) := by
  obtain ⟨ended, handover, _⟩ := handover_step custody m fresh
  exact handover.custody custody fun _ => asked?_ticket

theorem nextTicket_after (custody : Custody s) (m : Move) (fresh : Fresh m s) :
    s.nextTicket ≤ (s.after m).nextTicket := by
  obtain ⟨ended, handover, _⟩ := handover_step custody m fresh
  exact (handover.tickets fun _ => asked?_ticket).1

theorem finished_after (custody : Custody s) (m : Move) (fresh : Fresh m s) {ticket : Nat}
    (finished : s.Finished ticket) : (s.after m).Finished ticket := by
  obtain ⟨ended, handover, _⟩ := handover_step custody m fresh
  exact (handover.stays custody (fun _ => asked?_ticket) finished).1

theorem Custody.run (custody : Custody s) (moves : List Move) (fresh : FreshAlong moves s) :
    Custody (run moves s) := by
  induction moves generalizing s with
  | nil => exact custody
  | cons m rest ih => exact ih (custody.after m fresh.1) fresh.2

theorem run_finished (moves : List Move) (custody : Custody s) (fresh : FreshAlong moves s)
    {ticket : Nat} (finished : s.Finished ticket) :
    (run moves s).Finished ticket ∧ ∀ e ∈ since s (run moves s), e.ticket? ≠ some ticket := by
  induction moves generalizing s with
  | nil =>
    refine ⟨finished, fun e member => ?_⟩
    rw [run, since, List.drop_length] at member
    exact absurd member List.not_mem_nil
  | cons m rest ih =>
    obtain ⟨ended, handover, _⟩ := handover_step custody m fresh.1
    have here := handover.stays custody (fun _ => asked?_ticket) finished
    have later := ih (handover.custody custody fun _ => asked?_ticket) fresh.2 here.1
    refine ⟨later.1, fun e member => ?_⟩
    rw [since_run_cons] at member
    exact (List.mem_append.mp member).elim (here.2 e) (later.2 e)

theorem route_takes (request : Request) (caller : Caller)
    (taken : (s.route engine request caller).1.isOk) :
    ⟨s.nextTicket, request.withListener none⟩ ∈ (s.route engine request caller).2.held := by
  have routed : Routed engine _ _ s (s.route engine request caller) := route_routed request caller s
  generalize s.route engine request caller = result at taken routed ⊢
  cases routed with
  | parked recovering =>
    refine List.mem_append_left _ ?_
    rw [List.map_append]
    exact List.mem_append_right _ (List.mem_singleton_self _)
  | sent number answer ready =>
    refine List.mem_append_right _ (List.mem_filterMap.mpr ?_)
    exact ⟨_, List.mem_append_right _ (List.mem_singleton_self _), rfl⟩
  | _ => exact absurd taken Bool.false_ne_true

/-- What a run makes of its requests when it takes the step `m` in `s` and goes on with `rest`. -/
structure Conserved (s : Session) (m : Move) (rest : List Move) : Prop where
  /-- A request that was taken on is parked once, or in flight once, or finished. -/
  placed : ∀ ticket < (s.after m).nextTicket, Placed (s.after m) ticket
  issued : ∀ ticket, ticket ∈ (s.after m).queuedTickets ∨ ticket ∈ (s.after m).inFlightTickets →
    ticket < (s.after m).nextTicket
  packets : ∀ entry ∈ (s.after m).pending.entries, entry.2.replay.isSome →
    ∃ number, entry.1 = .packet number
  /-- A request that is answered with an identifier is taken on. -/
  taken : ∀ request caller, m.step = .request request caller →
    (s.route m.engine request caller).1.isOk → ∃ a ∈ (s.after m).held, asked? m s = some a
  /-- What is held is what was held before, or what the step asks for. -/
  same : ∀ a ∈ (s.after m).held, a ∈ s.held ∨ asked? m s = some a
  /-- What is sent under a ticket is the request of that ticket. -/
  sent : ∀ call answer ticket, .called call answer (some ticket) ∈ since s (s.after m) →
    ∃ a, (a ∈ s.held ∨ asked? m s = some a) ∧ a.ticket = ticket ∧ a.request.call = call
  /-- It is finished for one of the known reasons. -/
  ends : ∀ ticket, (s.after m).Finished ticket → s.Finished ticket ∨ Ends m s ticket
  /-- What is finished comes back neither to the queue nor to the table nor to the engine. -/
  stays : ∀ ticket, (s.after m).Finished ticket →
    (run rest (s.after m)).Finished ticket ∧
      ∀ e ∈ since (s.after m) (run rest (s.after m)), e.ticket? ≠ some ticket

/-- Requests are conserved at every step of every run, as long as the engine numbers no request
like one that is still in flight. -/
theorem requests_conserved (settings : Settings) (before rest : List Move) (m : Move)
    (fresh : FreshAlong (before ++ m :: rest) (start settings)) :
    Conserved (run before (start settings)) m rest := by
  obtain ⟨early, now, late⟩ := (freshAlong_append before (m :: rest) (start settings)).mp fresh
  have custody := (Custody.start settings).run before early
  generalize run before (start settings) = s at now late custody ⊢
  obtain ⟨ended, handover, ends⟩ := handover_step custody m now
  have next : Custody (s.after m) := handover.custody custody fun _ => asked?_ticket
  constructor
  case placed => exact next.placed
  case issued =>
    intro ticket held
    exact next.issued ticket ((heldTickets_perm next.kept).mem_iff.mpr (List.mem_append.mpr held))
  case packets =>
    intro entry member keeps
    obtain ⟨packet, isPacket⟩ := Option.isSome_iff_exists.mp (next.kept.packets entry member keeps).1
    exact ⟨packet.1, congrArg Prod.fst (PendingTable.asPacket?_eq_some.mp isPacket)⟩
  case taken =>
    intro request caller step answered
    refine ⟨⟨s.nextTicket, request.withListener none⟩, ?_, ?_⟩
    · unfold after
      rw [step]
      exact route_takes request caller answered
    · unfold asked?
      rw [step]
  case same => exact handover.known
  case sent => exact handover.sent
  case ends =>
    intro ticket finished
    refine (handover.finishes custody (fun _ => asked?_ticket) finished).imp_right fun member => ?_
    obtain ⟨a, out, rfl⟩ := List.mem_map.mp member
    exact ends a out
  case stays => exact fun ticket finished => run_finished rest next late finished

/-- A request is parked while the session connects and sent once it was accepted. -/
def parkedRun : List Move :=
  [⟨.connect (.notified none), numbering 1⟩,
   ⟨.request ⟨"t", .publish .empty .atLeastOnce false, none⟩ (.notified none), numbering 2⟩,
   ⟨.report (.connack 0), numbering 3⟩, ⟨.dispatch 0, numbering 3⟩, ⟨.tick 0, numbering 7⟩,
   ⟨.report (.puback 7), numbering 8⟩]

theorem parkedRun_conserved :
    FreshAlong (parkedRun ++ [⟨.dispatch 0, numbering 8⟩]) (start .standard) ∧
      Ends ⟨.dispatch 0, numbering 8⟩ (run parkedRun (start .standard)) 0 := by
  have fresh : FreshAlong (parkedRun ++ [⟨.dispatch 0, numbering 8⟩]) (start .standard) := by
    decide +kernel
  have conserved := requests_conserved .standard parkedRun [] ⟨.dispatch 0, numbering 8⟩ fresh
  have finished : ((run parkedRun (start .standard)).after ⟨.dispatch 0, numbering 8⟩).Finished 0 := by
    decide +kernel
  have waiting : ¬(run parkedRun (start .standard)).Finished 0 := by decide +kernel
  exact ⟨fresh, (conserved.ends 0 finished).resolve_left waiting⟩

end DurableMqtt.Session
