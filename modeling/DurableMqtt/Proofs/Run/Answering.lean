import DurableMqtt.Proofs.Run.Audience
import DurableMqtt.Proofs.Run.Restoration

/-!
What a request is answered.

A request may be sent many times, each time under another number, and its listener goes with it. It
is answered once at most: by the acknowledgment for the number that it was last sent under, or by
its end. What comes later finds no entry.
-/

namespace DurableMqtt

def Effect.numberOf? (ticket : Nat) : Effect → Option UInt32
  | called _ (.ok number) (some sent) => if sent = ticket then some number else none
  | _ => none

namespace Session

def lastNumber? (ticket : Nat) (s : Session) : Option UInt32 :=
  (s.effects.filterMap (Effect.numberOf? ticket)).getLast?

def numbersAlong (moves : List Move) (s : Session) : List UInt32 :=
  (since s (run moves s)).filterMap Effect.packet?

/-- Why an acknowledgment for a number is for no request. -/
inductive Stale (moves : List Move) (s : Session) (number : UInt32) : Prop where
  /-- The engine has never given the number out. -/
  | unknown (unused : number ∉ numbersAlong moves s)
  /-- An acknowledgment for the number was dispatched, and it was not given out again. -/
  | repeated (first later : List Move) (m : Move) (split : moves = first ++ m :: later)
      (dispatched : acknowledged? m (run first s) = some (.packet number))
      (unused : number ∉ numbersAlong later ((run first s).after m))
  /-- The session that the number belongs to has ended, and it was not given out again. -/
  | late (first later : List Move) (m : Move) (split : moves = first ++ m :: later)
      (ended : hangsUp m (run first s) = true)
      (phase : (run first s).phase ≠ .idle ∧ (run first s).phase ≠ .connecting)
      (unused : number ∉ numbersAlong later ((run first s).after m))

variable {s t : Session} {m : Move} {engine : Engine} {now : Instant} {ticket : Nat}
  {number : UInt32}

/-! ### The last number -/

theorem effects_after (m : Move) (s : Session) :
    (s.after m).effects = s.effects ++ since s (s.after m) := by
  obtain ⟨effects, appended⟩ := (framed m s).effects
  rw [since_of_append appended.symm, appended]

theorem numberOf?_of_untaken {e : Effect} (untaken : e.takes? = none) :
    e.numberOf? ticket = none := by
  cases e with
  | called call answer sent =>
    cases answer with
    | error cause => rfl
    | ok number =>
      cases sent with
      | none => rfl
      | some other => exact absurd untaken.symm (Option.some_ne_none other).symm
  | _ => rfl

theorem lastNumber?_of_untaken (untaken : ∀ e ∈ since s (s.after m), e.takes? = none) :
    (s.after m).lastNumber? ticket = s.lastNumber? ticket := by
  have silent : (since s (s.after m)).filterMap (Effect.numberOf? ticket) = [] :=
    List.filterMap_eq_nil_iff.mpr fun e member => numberOf?_of_untaken (untaken e member)
  rw [lastNumber?, effects_after, List.filterMap_append, silent, List.append_nil, lastNumber?]

theorem lastNumber?_of_sent {call : EngineCall} {sent : Nat}
    (effects : since s (s.after m) = [.called call (.ok number) (some sent)]) :
    (s.after m).lastNumber? ticket =
      if sent = ticket then some number else s.lastNumber? ticket := by
  rw [lastNumber?, effects_after, effects, List.filterMap_append]
  by_cases same : sent = ticket
  · have here : [Effect.called call (.ok number) (some sent)].filterMap
        (Effect.numberOf? ticket) = [number] := by simp [Effect.numberOf?, same]
    rw [here, if_pos same]
    exact List.getLast?_concat
  · have elsewhere : [Effect.called call (.ok number) (some sent)].filterMap
        (Effect.numberOf? ticket) = [] := by simp [Effect.numberOf?, same]
    rw [elsewhere, if_neg same, List.append_nil, lastNumber?]

/-- A request in flight stands under the number that it was last sent under. -/
def Numbered (s : Session) : Prop :=
  ∀ number e ticket, (.packet number, e) ∈ s.pending.entries → e.ticket? = some ticket →
    s.lastNumber? ticket = some number

theorem Numbered.start (settings : Settings) : Numbered (start settings) :=
  fun _ _ _ member => absurd member List.not_mem_nil

theorem Numbered.sent (numbered : Numbered s) (a : Accepted) (responder : Option Responder)
    (apart : ∀ entry ∈ s.pending.entries, entry.2.ticket? ≠ some a.ticket)
    (effects : since s (s.after m) = [.called a.request.call (.ok number) (some a.ticket)])
    (pending : (s.after m).pending = s.pending.insert (.packet number) (entryOf a responder)) :
    Numbered (s.after m) := by
  intro other e ticket member keeps
  rw [lastNumber?_of_sent effects]
  rw [pending] at member
  rcases mem_insert member with old | new
  · have elsewhere : a.ticket ≠ ticket := by
      rintro rfl
      exact apart _ old keeps
    rw [if_neg elsewhere]
    exact numbered other e ticket old keeps
  · obtain ⟨same, rfl⟩ := Prod.mk.inj new
    rw [if_pos (Option.some.inj keeps), RequestId.packet.inj same]

theorem Numbered.after (numbered : Numbered s) (custody : Custody s) (m : Move) :
    Numbered (s.after m) := by
  cases tabled m s with
  | kept untaken entries =>
    intro number e ticket member keeps
    rw [lastNumber?_of_untaken fun e member => (untaken e member).1]
    rcases entries _ member with old | ⟨other, -, -⟩
    · exact numbered number e ticket old keeps
    · exact absurd (other e).symm (Option.some_ne_none (number, e)).symm
  | restored record unsent given effects pending =>
    intro number e ticket member keeps
    have untaken : ∀ e ∈ since s (s.after m), e.takes? = none := by
      rw [effects]
      intro e member
      rw [List.mem_singleton.mp member]
      rfl
    rw [lastNumber?_of_untaken untaken]
    rw [pending] at member
    rcases mem_insert member with old | new
    · exact numbered number e ticket old keeps
    · rw [(Prod.mk.inj new).2] at keeps
      exact absurd keeps.symm (Option.some_ne_none ticket)
  | replayed a rest head number effects pending =>
    refine numbered.sent a _ (fun entry stood keeps => ?_) effects pending
    have parked : a.ticket ∈ s.queuedTickets := by
      rw [queuedTickets, head]
      exact List.mem_cons_self
    exact custody.apart parked (ticket_mem_contents stood keeps)
  | asked request caller step ready a same number effects pending =>
    refine numbered.sent a _ (fun entry stood keeps => ?_) effects pending
    have held := custody.issued _ (mem_heldTickets.mpr (.inr (ticket_mem_contents stood keeps)))
    rw [same] at held
    exact Nat.lt_irrefl _ held

theorem Numbered.run (numbered : Numbered s) (custody : Custody s) (moves : List Move)
    (fresh : FreshAlong moves s) : Numbered (run moves s) := by
  induction moves generalizing s with
  | nil => exact numbered
  | cons m rest ih =>
    exact ih (numbered.after custody m) (custody.after m fresh.1) fresh.2

/-! ### Answers other than a discard -/

def Settles (m : Move) (s : Session) (ticket : Nat) (ack : Ack) : Prop :=
  ∃ e entry, dispatched? m s = some e ∧ e.ack? = some ack ∧ s.pending.find? e.id = some entry ∧
    entry.ticket? = some ticket

/-- The dispatch of an acknowledgment for the number that a request was last sent under. -/
def Acknowledges (m : Move) (s : Session) (ticket : Nat) (ack : Ack) : Prop :=
  ∃ e number, dispatched? m s = some e ∧ e.ack? = some ack ∧ e.id = .packet number ∧
    s.lastNumber? ticket = some number

theorem Settles.acknowledges (custody : Custody s) (numbered : Numbered s) {ack : Ack}
    (settles : Settles m s ticket ack) : Acknowledges m s ticket ack := by
  obtain ⟨e, entry, dispatched, of, found, keeps⟩ := settles
  have stood := PendingTable.mem_of_find? found
  have replay : entry.replay.isSome := Option.isSome_map.symm.trans (Option.isSome_of_mem keeps)
  obtain ⟨packet, isPacket⟩ :=
    Option.isSome_iff_exists.mp (custody.kept.packets _ stood replay).1
  have identifier : e.id = .packet packet.1 :=
    congrArg Prod.fst (PendingTable.asPacket?_eq_some.mp isPacket)
  rw [identifier] at stood
  exact ⟨e, packet.1, dispatched, of, identifier, numbered _ entry ticket stood keeps⟩

theorem ticket_of_replyTo {id : RequestId} {ack : Ack} {r : Reply} (given : r ∈ s.replyTo id ack) :
    r.ack = ack ∧ ∃ entry, s.pending.find? id = some entry ∧ r.ticket? = entry.ticket? := by
  obtain ⟨entry, found, rfl⟩ := List.mem_map.mp given
  exact ⟨rfl, entry, Option.mem_toList.mp found, rfl⟩

theorem ticketless_replyTo (kept : s.pending.WellKept) {id : RequestId} {ack : Ack} {r : Reply}
    (other : ∀ e, PendingTable.asPacket? (id, e) = none) (given : r ∈ s.replyTo id ack) :
    r.ticket? = none :=
  List.filterMap_eq_nil_iff.mp (replyTo_tickets_plain kept ack other) r given

theorem settles_of_reply (kept : s.pending.WellKept) {r : Reply} (given : r ∈ replies m s)
    (for' : r.ticket? = some ticket) (other : r.ack ≠ .discarded) :
    Settles m s ticket r.ack := by
  have answers (now : Instant) (step : m.step = .dispatch now) (e : Event)
      (next : s.nextEvent? = some e) (ack : Ack) (of : e.ack? = some ack)
      (given : r ∈ s.replyTo e.id ack) : Settles m s ticket r.ack := by
    obtain ⟨same, entry, found, keeps⟩ := ticket_of_replyTo given
    refine ⟨e, entry, ?_, by rw [of, same], found, keeps.symm.trans for'⟩
    rw [dispatched?, step]
    exact next
  have plain {id : RequestId} {ack : Ack} (packetless : ∀ e, PendingTable.asPacket? (id, e) = none)
      (given : r ∈ s.replyTo id ack) : Settles m s ticket r.ack :=
    absurd ((ticketless_replyTo kept packetless given).symm.trans for').symm
      (Option.some_ne_none ticket)
  unfold replies at given
  split at given
  next now step =>
    obtain ⟨e, next, given⟩ := List.mem_flatMap.mp given
    have next := Option.mem_toList.mp next
    unfold eventReplies at given
    split at given
    next code kind => exact plain (fun _ => rfl) given
    next code kind =>
      unfold hangUpReplies at given
      split at given
      · exact plain (fun _ => rfl) given
      · exact absurd given List.not_mem_nil
      · exact absurd given List.not_mem_nil
      · obtain ⟨entry, -, rfl⟩ := List.mem_map.mp given
        exact absurd rfl other
    next kind => exact answers now step e next _ (by rw [Event.ack?, kind]) given
    next answer kind => exact answers now step e next _ (by rw [Event.ack?, kind]) given
    next kind => exact answers now step e next _ (by rw [Event.ack?, kind]) given
    next => exact absurd given List.not_mem_nil
  next now =>
    unfold headReplies at given
    split at given
    · exact absurd given List.not_mem_nil
    · split at given
      · rw [List.mem_singleton.mp given] at other
        exact absurd rfl other
      · exact absurd given List.not_mem_nil
  next => exact absurd given List.not_mem_nil

/-! ### Acknowledgments that are for no request -/

theorem find?_eq_none {table : PendingTable} {id : RequestId}
    (absent : ∀ entry ∈ table.entries, entry.1 ≠ id) : table.find? id = none := by
  cases found : table.find? id with
  | none => rfl
  | some entry => exact absurd rfl (absent _ (PendingTable.mem_of_find? found))

theorem unfound_after (unfound : s.pending.find? (.packet number) = none)
    (unused : number ∉ (since s (s.after m)).filterMap Effect.packet?) :
    (s.after m).pending.find? (.packet number) = none := by
  have inserted {given : UInt32} {e : Effect} {entry : PendingEntry}
      (effects : since s (s.after m) = [e]) (packet : e.packet? = some given)
      (pending : (s.after m).pending = s.pending.insert (.packet given) entry) :
      (s.after m).pending.find? (.packet number) = none := by
    have apart : RequestId.packet number ≠ .packet given := by
      rintro same
      refine unused (List.mem_filterMap.mpr ⟨e, ?_, ?_⟩)
      · rw [effects]
        exact List.mem_singleton_self e
      · rw [packet, RequestId.packet.inj same]
    rw [pending, PendingTable.find?_insert_of_ne apart, unfound]
  cases tabled m s with
  | kept untaken entries =>
    refine find?_eq_none fun entry member => ?_
    rcases entries entry member with old | ⟨other, -, -⟩
    · exact PendingTable.find?_none unfound entry old
    · intro same
      have packet := other entry.2
      rw [same] at packet
      exact absurd packet (Option.some_ne_none _)
  | restored record unsent given effects pending => exact inserted effects rfl pending
  | replayed a rest head given effects pending =>
    exact inserted effects (packet?_request _ given _) pending
  | asked request caller step ready a same given effects pending =>
    exact inserted effects (packet?_request _ given _) pending

theorem unfound_run (moves : List Move) (unfound : s.pending.find? (.packet number) = none)
    (unused : number ∉ numbersAlong moves s) :
    (run moves s).pending.find? (.packet number) = none := by
  induction moves generalizing s with
  | nil => exact unfound
  | cons m rest ih =>
    rw [numbersAlong, since_run_cons, List.filterMap_append, List.mem_append, not_or] at unused
    exact ih (unfound_after unfound unused.1) unused.2

theorem unfound_of_acknowledged {id : RequestId} (acknowledged : acknowledged? m s = some id) :
    (s.after m).pending.find? id = none := by
  obtain ⟨step, engine⟩ := m
  cases step with
  | dispatch now =>
    have dispatched : Dispatched now s (s.dispatch engine now) := dispatch_dispatched s
    change (s.dispatch engine now).pending.find? id = none
    unfold acknowledged? at acknowledged
    have seen : dispatched? ⟨.dispatch now, engine⟩ s = s.nextEvent? := rfl
    rw [seen] at acknowledged
    generalize s.dispatch engine now = t at dispatched ⊢
    cases dispatched with
    | idle none =>
      rw [none] at acknowledged
      cases acknowledged
    | handled e next t handled =>
      rw [next] at acknowledged
      obtain ⟨ack, of, rfl⟩ := Option.map_eq_some_iff.mp acknowledged
      cases handled with
      | unknown ack of unknown => exact unknown
      | acknowledged ack of entry found consumer kept => exact PendingTable.find?_erase_self
      | welcomed kind connecting => simp [Event.ack?, kind] at of
      | turnedAway code kind refused connecting => simp [Event.ack?, kind] at of
      | unheeded code kind elsewhere => simp [Event.ack?, kind] at of
      | hungUp code kind t hungUp => simp [Event.ack?, kind] at of
      | delivered message kind consumer effects same hooks => simp [Event.ack?, kind] at of
  | _ => cases acknowledged

theorem unfound_of_ended (ended : hangsUp m s = true)
    (phase : s.phase ≠ .idle ∧ s.phase ≠ .connecting) :
    (s.after m).pending.find? (.packet number) = none := by
  obtain ⟨step, engine⟩ := m
  cases step with
  | dispatch now =>
    have dispatched : Dispatched now s (s.dispatch engine now) := dispatch_dispatched s
    change (s.dispatch engine now).pending.find? _ = none
    have seen : dispatched? ⟨.dispatch now, engine⟩ s = s.nextEvent? := rfl
    rw [hangsUp, seen] at ended
    generalize s.dispatch engine now = t at dispatched ⊢
    cases dispatched with
    | idle none =>
      rw [none] at ended
      exact absurd ended Bool.false_ne_true
    | handled e next t handled =>
      rw [next, Option.any_some] at ended
      cases handled with
      | hungUp code kind t hungUp =>
        cases hungUp with
        | closed phase => rfl
        | idle away => exact absurd away phase.1
        | connecting away => exact absurd away phase.2
        | lost established =>
          refine find?_eq_none fun entry member same => ?_
          obtain ⟨id, e⟩ := entry
          simp only at same
          subst same
          exact absurd (List.mem_filter.mp member).2 Bool.false_ne_true
      | welcomed kind connecting => simp [Event.isDisconnect, kind] at ended
      | turnedAway code kind refused connecting => simp [Event.isDisconnect, kind] at ended
      | unheeded code kind elsewhere => simp [Event.isDisconnect, kind] at ended
      | delivered message kind consumer effects same hooks =>
        simp [Event.isDisconnect, kind] at ended
      | unknown ack of unknown =>
        rw [ack?_of_closing ended] at of
        exact absurd of.symm (Option.some_ne_none ack)
      | acknowledged ack of entry found consumer kept =>
        rw [ack?_of_closing ended] at of
        exact absurd of.symm (Option.some_ne_none ack)
  | _ => exact absurd ended Bool.false_ne_true

theorem Stale.unfound {settings : Settings} {moves : List Move}
    (stale : Stale moves (Session.start settings) number) :
    (Session.run moves (Session.start settings)).pending.find? (.packet number) = none := by
  cases stale with
  | unknown unused => exact unfound_run moves rfl unused
  | repeated first later m split dispatched unused =>
    rw [split, run_append]
    exact unfound_run later (unfound_of_acknowledged dispatched) unused
  | late first later m split ended phase unused =>
    rw [split, run_append]
    exact unfound_run later (unfound_of_ended ended phase) unused

theorem after_of_unfound {e : Event} (dispatched : dispatched? m s = some e)
    (acknowledges : e.ack?.isSome) (unfound : s.pending.find? e.id = none) :
    s.after m = { s with events := s.events.next.2 } := by
  obtain ⟨step, engine⟩ := m
  cases step with
  | dispatch now =>
    have next : s.nextEvent? = some e := dispatched
    have unknown (ack : Ack) := acknowledge_unknown now e.id ack
      { s with events := s.events.next.2 } unfound
    change s.dispatch engine now = _
    rw [dispatch_eq s next]
    unfold handle
    unfold Event.ack? at acknowledges
    cases kind : e.kind with
    | puback => exact unknown .published
    | suback answer => exact unknown (.subscribed answer)
    | unsuback => exact unknown .unsubscribed
    | connack code => simp [kind] at acknowledges
    | disconnect code => simp [kind] at acknowledges
    | message message => simp [kind] at acknowledges
  | _ => cases dispatched

/-! ### Answered once -/

/-- What a run makes of the answer to the request of a ticket, which a listener is to hear. -/
structure AnsweredOnce (moves : List Move) (s : Session) (ticket : Nat)
    (listener : Option Listener) : Prop where
  /-- All that anybody is told in the run is told by its answers. -/
  told : tellings (since s (run moves s)) = (repliesAlong moves s).flatMap Reply.effects
  once : ((repliesAlong moves s).filter (·.ticket? == some ticket)).length ≤ 1
  /-- Lost sessions and replays do not change who hears the answer. -/
  heard : ∀ r ∈ repliesAlong moves s, r.ticket? = some ticket → r.listener = listener
  /-- A listener that the run brings for this request alone is told once at most. -/
  toldOnce : ∀ heard,
    (∀ given ∈ broughtAlong moves s, given.2 = some heard → given.1 = some ticket) →
      ((since s (run moves s)).filterMap Effect.listener?).count heard ≤ 1
  acknowledged : ∀ first m later, moves = first ++ m :: later →
    ∀ r ∈ replies m (run first s), r.ticket? = some ticket → r.ack ≠ .discarded →
      Acknowledges m (run first s) ticket r.ack
  /-- A request that was answered is not sent again. -/
  final : ∀ first m later, moves = first ++ m :: later →
    ∀ r ∈ replies m (run first s), r.ticket? = some ticket →
      ∀ e ∈ since ((run first s).after m) (run moves s), e.ticket? ≠ some ticket
  /-- An acknowledgment that comes twice, late or without a request only leaves the queue of
  events. -/
  stale : ∀ first m later, moves = first ++ m :: later →
    ∀ e number, dispatched? m (run first s) = some e → e.ack?.isSome → e.id = .packet number →
      Stale first s number → replies m (run first s) = [] ∧
        (run first s).after m = { run first s with events := (run first s).events.next.2 }

theorem issued_of_accepted (request : Request) (caller : Caller)
    (accepted : (s.route engine request caller).1.isOk) :
    (s.route engine request caller).2.nextTicket = s.nextTicket + 1 := by
  have routed : Routed engine _ _ s (s.route engine request caller) := route_routed request caller s
  generalize s.route engine request caller = result at accepted routed ⊢
  cases routed with
  | parked recovering => rfl
  | sent number taken ready => rfl
  | _ => exact absurd accepted Bool.false_ne_true

theorem brought_ticket {given : Option Nat × Option Listener} (brings : given ∈ brought m s)
    (of : given.1 = some ticket) : ticket = s.nextTicket := by
  unfold brought at brings
  split at brings
  next =>
    rw [List.mem_singleton.mp brings] at of
    cases of
  next =>
    rw [List.mem_singleton.mp brings] at of
    cases of
  next =>
    rcases List.mem_cons.mp brings with own | others
    · rw [own] at of
      exact (Option.some.inj of).symm
    · split at others
      · rcases List.mem_cons.mp others with record | again
        · rw [record] at of
          cases of
        · rw [List.mem_singleton.mp again] at of
          cases of
      · exact absurd others List.not_mem_nil
  next =>
    rw [List.mem_singleton.mp brings] at of
    cases of
  next => exact absurd brings List.not_mem_nil

theorem broughtAlong_ticket (moves : List Move) (custody : Custody s) (fresh : FreshAlong moves s)
    {given : Option Nat × Option Listener} (brings : given ∈ broughtAlong moves s)
    (of : given.1 = some ticket) : s.nextTicket ≤ ticket := by
  induction moves generalizing s with
  | nil => exact absurd brings List.not_mem_nil
  | cons m rest ih =>
    rcases List.mem_append.mp brings with here | later
    · exact (brought_ticket here of).ge
    · calc s.nextTicket
        _ ≤ (s.after m).nextTicket := nextTicket_after custody m fresh.1
        _ ≤ ticket := ih (custody.after m fresh.1) fresh.2 later

theorem mem_leavingAlong_of_reply {moves : List Move} {r : Reply}
    (given : r ∈ repliesAlong moves s) (of : r.ticket? = some ticket) :
    ticket ∈ leavingAlong moves s :=
  (leavingAlong_perm moves s).symm.subset
    (List.mem_append_left _ (List.mem_filterMap.mpr ⟨r, given, of⟩))

theorem audience_before (custody : Custody s) (listener : Option Listener) :
    Audience (fun for' heard => for' = some s.nextTicket → heard = listener) s where
  parked := by
    intro a member
    refine ⟨fun same => ?_, fun _ none => absurd none (Option.some_ne_none _).symm⟩
    have parked : a.ticket ∈ s.queuedTickets := List.mem_map_of_mem member
    have issued := custody.issued _ (mem_heldTickets.mpr (.inl parked))
    rw [Option.some.inj same] at issued
    exact absurd issued (Nat.lt_irrefl _)
  table := by
    intro entry stood
    refine ⟨fun same => ?_, fun _ _ _ none => ?_, fun _ _ none => ?_⟩
    · have issued := custody.issued _ (mem_heldTickets.mpr (.inr (ticket_mem_contents stood same)))
      exact absurd issued (Nat.lt_irrefl _)
    · exact absurd none (Option.some_ne_none _).symm
    · exact absurd none (Option.some_ne_none _).symm
  granted := fun _ _ none => absurd none (Option.some_ne_none _).symm
  unsent := fun _ _ none => absurd none (Option.some_ne_none _).symm

theorem heard_run (custody : Custody s) (request : Request) (caller : Caller) (rest : List Move)
    (fresh : FreshAlong (⟨.request request caller, engine⟩ :: rest) s)
    (accepted : (s.route engine request caller).1.isOk) :
    ∀ r ∈ repliesAlong (⟨.request request caller, engine⟩ :: rest) s,
      r.ticket? = some s.nextTicket → r.listener = caller.hears s.phase := by
  have next := custody.after _ fresh.1
  have issued : (s.after ⟨.request request caller, engine⟩).nextTicket = s.nextTicket + 1 :=
    issued_of_accepted request caller accepted
  have asked := (audience_before custody (caller.hears s.phase)).after
    (m := ⟨.request request caller, engine⟩) (by
      intro given brings of
      rcases List.mem_cons.mp brings with own | others
      · rw [own]
      · split at others
        · rcases List.mem_cons.mp others with record | again
          · rw [record] at of
            cases of
          · rw [List.mem_singleton.mp again] at of
            cases of
        · exact absurd others List.not_mem_nil)
  have later := (asked.run rest fun given brings of => by
    have bound := broughtAlong_ticket rest next fresh.2 brings of
    omega).2
  intro r member
  rcases List.mem_append.mp member with here | there
  · exact absurd here List.not_mem_nil
  · exact later r there

theorem heard_accepted (settings : Settings) (before rest : List Move) (request : Request)
    (caller : Caller) (engine : Engine)
    (fresh : FreshAlong (before ++ ⟨.request request caller, engine⟩ :: rest) (start settings))
    (accepted : ((run before (start settings)).route engine request caller).1.isOk) :
    ∀ r ∈ repliesAlong (before ++ ⟨.request request caller, engine⟩ :: rest) (start settings),
      r.ticket? = some (run before (start settings)).nextTicket →
        r.listener = caller.hears (run before (start settings)).phase := by
  have custody := Custody.start settings
  obtain ⟨early, late⟩ := (freshAlong_append _ _ _).mp fresh
  intro r member of
  rw [repliesAlong_append] at member
  rcases List.mem_append.mp member with given | given
  · have left := mem_leavingAlong_of_reply given of
    have finished := (finished_of_leavingAlong before custody early left).2
    exact absurd finished.1 (Nat.lt_irrefl _)
  · exact heard_run (custody.run before early) request caller rest late accepted r given of

/-- Every accepted request is answered once at most, by the acknowledgment for the number that it
was last sent under or by a discard, and is not sent again after that. -/
theorem request_answered_once (settings : Settings) (before rest : List Move) (request : Request)
    (caller : Caller) (engine : Engine)
    (fresh : FreshAlong (before ++ ⟨.request request caller, engine⟩ :: rest) (start settings))
    (accepted : ((run before (start settings)).route engine request caller).1.isOk) :
    AnsweredOnce (before ++ ⟨.request request caller, engine⟩ :: rest) (start settings)
      (run before (start settings)).nextTicket
      (caller.hears (run before (start settings)).phase) := by
  have custody := Custody.start settings
  have heard := heard_accepted settings before rest request caller engine fresh accepted
  generalize (run before (start settings)).nextTicket = ticket at heard ⊢
  generalize caller.hears (run before (start settings)).phase = listener at heard ⊢
  generalize before ++ ⟨.request request caller, engine⟩ :: rest = moves at fresh heard ⊢
  have once : ((repliesAlong moves (start settings)).filter
      (·.ticket? == some ticket)).length ≤ 1 := by
    have counted := count_leavingAlong moves (start settings) ticket
    have single := List.nodup_iff_count_le_one.mp (leavingAlong_once moves custody fresh) ticket
    omega
  constructor
  case told => exact tellings_repliesAlong moves _
  case once => exact once
  case heard => exact heard
  case toldOnce =>
    -- A listener of this request alone hears replies to this request only.
    intro one alone
    have answers := ((Audience.start settings).run
      (p := fun for' told => told = some one → for' = some ticket) moves alone).2
    calc ((since (start settings) (run moves (start settings))).filterMap
          Effect.listener?).count one
      _ = (repliesAlong moves (start settings)).countP (·.listener == some one) := by
        rw [told_replies, List.count_filterMap]
      _ ≤ (repliesAlong moves (start settings)).countP (·.ticket? == some ticket) := by
        refine List.countP_mono_left fun r member same => ?_
        exact beq_iff_eq.mpr (answers r member (beq_iff_eq.mp same))
      _ ≤ 1 := by
        rw [List.countP_eq_length_filter]
        exact once
  case acknowledged =>
    intro first m later split r given of other
    rw [split] at fresh
    obtain ⟨fresh, -⟩ := (freshAlong_append first _ _).mp fresh
    have numbered := (Numbered.start settings).run custody first fresh
    have here := custody.run first fresh
    exact (settles_of_reply here.kept given of other).acknowledges here numbered
  case final =>
    intro first m later split r given of
    rw [split] at fresh ⊢
    obtain ⟨sooner, now, afterwards⟩ := (freshAlong_append first _ _).mp fresh
    have here := custody.run first sooner
    have finished := (finished_of_leaving here now (mem_leaving_of_reply given of)).2
    rw [run_append]
    exact (run_finished later (here.after m now) afterwards finished).2
  case stale =>
    intro first m later split e number dispatched acknowledges identifier stale
    have unfound := stale.unfound
    rw [← identifier] at unfound
    refine ⟨?_, after_of_unfound dispatched acknowledges unfound⟩
    obtain ⟨step, engine⟩ := m
    cases step with
    | dispatch now =>
      obtain ⟨ack, of⟩ := Option.isSome_iff_exists.mp acknowledges
      have next : (run first (start settings)).nextEvent? = some e := dispatched
      rw [replies_dispatch next, eventReplies_of_ack of, replyTo, unfound]
      rfl
    | _ => cases dispatched

def steadyRun : List Move :=
  [⟨.connect (.notified none), numbering 1⟩, ⟨.report (.connack 0), numbering 1⟩,
   ⟨.dispatch 0, numbering 1⟩, ⟨.tick 0, numbering 1⟩]

def publishing : Request := ⟨"t", .publish .empty .atLeastOnce false, none⟩

/-- The session is lost and the request is sent again on the next one. Its acknowledgment comes
twice. -/
def replayingRun : List Move :=
  [⟨.report (.disconnect 0), numbering 2⟩, ⟨.dispatch 0, numbering 2⟩,
   ⟨.connect (.notified none), numbering 2⟩, ⟨.report (.connack 0), numbering 2⟩,
   ⟨.dispatch 0, numbering 2⟩, ⟨.tick 0, numbering 2⟩, ⟨.report (.puback 2), numbering 3⟩,
   ⟨.report (.puback 2), numbering 3⟩, ⟨.dispatch 0, numbering 3⟩, ⟨.dispatch 0, numbering 3⟩]

theorem replayingRun_answered :
    let caller := Caller.notified (some ⟨"A"⟩)
    let moves := steadyRun ++ ⟨.request publishing caller, numbering 1⟩ :: replayingRun
    FreshAlong moves (start .standard) ∧
      ((run steadyRun (start .standard)).route (numbering 1) publishing caller).1.isOk ∧
      ((since (start .standard) (run moves (start .standard))).filterMap
        Effect.listener?).count (.callback ⟨"A"⟩) = 1 := by
  intro caller moves
  have fresh : FreshAlong moves (start .standard) := by decide +kernel
  have accepted : ((run steadyRun (start .standard)).route (numbering 1) publishing
      caller).1.isOk := by decide +kernel
  have answered := request_answered_once .standard steadyRun replayingRun publishing caller
    (numbering 1) fresh accepted
  have once := answered.toldOnce (.callback ⟨"A"⟩) (by decide +kernel)
  have told : 1 ≤ ((since (start .standard) (run moves (start .standard))).filterMap
      Effect.listener?).count (.callback ⟨"A"⟩) := by decide +kernel
  exact ⟨fresh, accepted, Nat.le_antisymm once told⟩

end Session

end DurableMqtt
