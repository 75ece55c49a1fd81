import DurableMqtt.Proofs.Run.Answering

/-!
What the loss of a session does to the requests in flight.

Every entry that waits for the acknowledgment of a request was stored when the engine took the
request, and keeps it as it was issued. So a lost session has all of its requests at hand: they go
back in front of the queue, in the order of their numbers. Only a disabled queue takes none of them,
and then each caller is told.
-/

namespace DurableMqtt

namespace Session

variable {s t : Session} {m : Move} {engine : Engine} {now : Instant} {number : UInt32}
  {e : PendingEntry}

/-! ### Issued requests -/

/-- The engine takes a request in a step: one that is asked for, or the head of the queue. -/
structure Issues (m : Move) (s : Session) (number : UInt32) (a : Accepted) : Prop where
  taken : since s (s.after m) = [.called a.request.call (.ok number) (some a.ticket)]
  source : s.queue.items.head? = some a ∨ ∃ request caller, m.step = .request request caller ∧
    a = ⟨s.nextTicket, request.withListener caller.listener⟩

/-- The engine took a request in a run, and the entry stands under its number ever since. -/
def IssuedIn (settings : Settings) (moves : List Move) (number : UInt32) (e : PendingEntry)
    (a : Accepted) : Prop :=
  ∃ before m rest, moves = before ++ m :: rest ∧ Issues m (run before (start settings)) number a ∧
    ∀ later, later <+: rest →
      (.packet number, e) ∈ (run (before ++ m :: later) (start settings)).pending.entries

/-- An entry that waits for the acknowledgment of a request stood before the step, or the request is
issued in it. -/
theorem entry_origin (m : Move) (s : Session)
    (stands : (.packet number, e) ∈ (s.after m).pending.entries) (plain : e.resubscribe = false) :
    (.packet number, e) ∈ s.pending.entries ∨
      ∃ a, Issues m s number a ∧ e = entryOf a e.responder := by
  have here : Tabled m s (s.after m) := tabled m s
  cases here with
  | kept untaken entries =>
    refine (entries _ stands).imp_right fun answer => ?_
    exact absurd (answer.1 e) (Option.some_ne_none _)
  | restored record unsent number' effects pending =>
    rw [pending] at stands
    refine (mem_insert stands).imp_right fun same => ?_
    obtain ⟨-, rfl⟩ := Prod.mk.inj same
    exact absurd plain.symm Bool.false_ne_true
  | replayed a rest head number' effects pending =>
    rw [pending] at stands
    refine (mem_insert stands).imp_right fun same => ?_
    obtain ⟨packet, rfl⟩ := Prod.mk.inj same
    cases packet
    exact ⟨a, ⟨effects, .inl (by rw [head]; rfl)⟩, rfl⟩
  | asked request caller step ready a same number' effects pending =>
    rw [pending] at stands
    refine (mem_insert stands).imp_right fun stored => ?_
    obtain ⟨packet, rfl⟩ := Prod.mk.inj stored
    cases packet
    exact ⟨a, ⟨effects, .inr ⟨request, caller, step, same⟩⟩, rfl⟩

theorem entry_issued (settings : Settings) (moves : List Move)
    (stands : (.packet number, e) ∈ (run moves (start settings)).pending.entries)
    (plain : e.resubscribe = false) :
    ∃ a, IssuedIn settings moves number e a ∧ e = entryOf a e.responder := by
  induction moves using List.reverseRecOn with
  | nil => exact absurd stands List.not_mem_nil
  | append_singleton before m ih =>
    have last : run (before ++ [m]) (start settings) = (run before (start settings)).after m :=
      run_append before [m] _
    have entry := stands
    rw [last] at entry
    rcases entry_origin m _ entry plain with old | ⟨a, issues, same⟩
    · obtain ⟨a, ⟨first, issue, rest, rfl, issues, since⟩, same⟩ := ih old
      refine ⟨a, ⟨first, issue, rest ++ [m], by simp, issues, fun later early => ?_⟩, same⟩
      rcases List.prefix_concat_iff.mp early with whole | shorter
      · rw [whole]
        simpa using stands
      · exact since later shorter
    · refine ⟨a, ⟨before, m, [], rfl, issues, fun later early => ?_⟩, same⟩
      rw [List.prefix_nil.mp early]
      exact stands

/-! ### What is in flight -/

/-- What an entry in flight is parked as: its request as it was issued, but answering to whoever
hears of the entry. -/
def ReplaysAs (issued : UInt32 → PendingEntry → Accepted → Prop) (entry : UInt32 × PendingEntry)
    (replay : Accepted) : Prop :=
  ∃ a, issued entry.1 entry.2 a ∧
    replay = { a with request := { a.request with onAck := entry.2.listener } }

theorem mem_unanswered : (number, e) ∈ s.unanswered ↔
    (.packet number, e) ∈ s.pending.entries ∧ e.resubscribe = false := by
  unfold unanswered
  rw [List.mem_filter, PendingTable.mem_inFlight, Bool.not_eq_true']

theorem unanswered_ascending (kept : s.pending.WellKept) :
    s.unanswered.Pairwise fun a b => a.1 < b.1 :=
  kept.inFlight_ascending.sublist List.filter_sublist

theorem unanswered_issued (settings : Settings) (moves : List Move) :
    ∀ entry ∈ (run moves (start settings)).unanswered,
      ∃ a, IssuedIn settings moves entry.1 entry.2 a ∧ entry.2.replay = some a := by
  intro entry member
  obtain ⟨stands, plain⟩ := mem_unanswered.mp member
  obtain ⟨a, issued, same⟩ := entry_issued settings moves stands plain
  exact ⟨a, issued, congrArg PendingEntry.replay same⟩

theorem replays_of_issued {issued : UInt32 → PendingEntry → Accepted → Prop}
    (entries : List (UInt32 × PendingEntry))
    (atHand : ∀ entry ∈ entries, ∃ a, issued entry.1 entry.2 a ∧ entry.2.replay = some a) :
    List.Forall₂ (ReplaysAs issued) entries (entries.filterMap (·.2.replayed)) := by
  induction entries with
  | nil => exact .nil
  | cons entry rest ih =>
    obtain ⟨a, here, replay⟩ := atHand entry List.mem_cons_self
    have again : entry.2.replayed =
        some { a with request := a.request.withListener entry.2.listener } := by
      rw [PendingEntry.replayed, replay]
      rfl
    simp only [List.filterMap_cons, again]
    exact .cons ⟨a, here, rfl⟩
      (ih fun other member => atHand other (List.mem_cons_of_mem entry member))

theorem isKept_of_replay {entry : UInt32 × PendingEntry} {a : Accepted}
    (replay : entry.2.replay = some a) : s.isKept entry = !s.queue.isDisabled := by
  rw [isKept, replay, Option.isSome_some, Bool.and_true]

/-! ### The loss -/

/-- What becomes of a session that is lost, when `issued` says as what the requests of its entries
were issued. -/
structure LosesSession (issued : UInt32 → PendingEntry → Accepted → Prop) (s t : Session) :
    Prop where
  phase : t.phase = .abnormalDisconnect
  /-- The requests in flight are the entries under the number of a packet that do not restore a
  subscription, lowest number first. -/
  complete : ∀ number e, (number, e) ∈ s.unanswered ↔
    (.packet number, e) ∈ s.pending.entries ∧ e.resubscribe = false
  ascending : s.unanswered.Pairwise fun a b => a.1 < b.1
  enabled : s.queue.isDisabled = false →
    (∃ replays, List.Forall₂ (ReplaysAs issued) s.unanswered replays ∧
      t.queue = { s.queue with items := replays ++ s.queue.items }) ∧
    tellings (since s t) = []
  disabled : s.queue.isDisabled = true →
    t.queue = s.queue ∧
    tellings (since s t) = s.unanswered.flatMap fun entry =>
      told (.packet entry.1) entry.2.responder .discarded
  packets : ∀ number, t.pending.find? (.packet number) = none
  others : ∀ id, (∀ number, id ≠ .packet number) → t.pending.find? id = s.pending.find? id
  registry : t.registry = s.registry

theorem losesSession_hangUp {issued : UInt32 → PendingEntry → Accepted → Prop} {code : UInt8}
    (hungUp : HungUp code s t)
    (phase : s.phase ∈ [.resubscribing, .draining, .stable, .abnormalDisconnect])
    (kept : s.pending.WellKept)
    (atHand : ∀ entry ∈ s.unanswered, ∃ a, issued entry.1 entry.2 a ∧ entry.2.replay = some a) :
    LosesSession issued s t := by
  have elsewhere (other : Phase) (here : s.phase = other)
      (unlisted : other ∉ [.resubscribing, .draining, .stable, .abnormalDisconnect]) : False := by
    rw [here] at phase
    exact unlisted phase
  have keeps : ∀ entry ∈ s.unanswered, s.isKept entry = !s.queue.isDisabled := by
    intro entry member
    obtain ⟨a, -, replay⟩ := atHand entry member
    exact isKept_of_replay replay
  have leaving : tellings s.farewell = [] := tellings_hooks s.farewell_isHook
  cases hungUp with
  | closed here => exact (elsewhere _ here (by decide)).elim
  | idle here => exact (elsewhere _ here (by decide)).elim
  | connecting here => exact (elsewhere _ here (by decide)).elim
  | lost established =>
    constructor
    case phase => rfl
    case complete => exact fun number e => mem_unanswered
    case ascending => exact unanswered_ascending kept
    case packets => exact PendingTable.find?_packet_withoutPackets s.pending
    case others =>
      exact fun id other => PendingTable.find?_withoutPackets (PendingTable.asPacket?_of_other other)
    case registry => rfl
    case enabled =>
      intro enabled
      have all : s.unanswered.filter s.isKept = s.unanswered :=
        List.filter_eq_self.mpr fun entry member => by rw [keeps entry member, enabled]; rfl
      have none : (s.unanswered.filter fun entry => !s.isKept entry) = [] :=
        List.filter_eq_nil_iff.mpr fun entry member => by rw [keeps entry member, enabled]; decide
      refine ⟨⟨_, replays_of_issued s.unanswered atHand, ?_⟩, ?_⟩
      · simp only [all]
        rfl
      · rw [since_of_append rfl, none, tellings_append, leaving]
        rfl
    case disabled =>
      intro disabled
      have none : s.unanswered.filter s.isKept = [] :=
        List.filter_eq_nil_iff.mpr fun entry member => by rw [keeps entry member, disabled]; decide
      have all : (s.unanswered.filter fun entry => !s.isKept entry) = s.unanswered :=
        List.filter_eq_self.mpr fun entry member => by rw [keeps entry member, disabled]; rfl
      refine ⟨?_, ?_⟩
      · simp only [none]
        rfl
      · rw [since_of_append rfl, all, tellings_append, leaving, List.nil_append,
          tellings_discarded, List.flatMap_map]
        rfl

/-- Every request in flight can be sent again as it was issued in the run, and the end of a session
that was accepted moves just these. -/
theorem session_lost (settings : Settings) (moves : List Move)
    (fresh : FreshAlong moves (start settings)) :
    (∀ number e, (.packet number, e) ∈ (run moves (start settings)).pending.entries →
      e.resubscribe = false → ∃ a, IssuedIn settings moves number e a ∧ e.replay = some a) ∧
    ∀ engine now code event, (run moves (start settings)).nextEvent? = some event →
      event.kind = .disconnect code →
      (run moves (start settings)).phase ∈
        [.resubscribing, .draining, .stable, .abnormalDisconnect] →
      LosesSession (IssuedIn settings moves) (run moves (start settings))
        ((run moves (start settings)).dispatch engine now) := by
  refine ⟨fun number e stands plain => ?_, fun engine now code event next kind phase => ?_⟩
  · exact unanswered_issued settings moves (number, e) (mem_unanswered.mpr ⟨stands, plain⟩)
  · have kept := ((Custody.start settings).run moves fresh).kept
    have atHand := unanswered_issued settings moves
    rw [dispatch_eq _ next, handle, kind]
    generalize run moves (start settings) = s at phase kept atHand ⊢
    have lost := losesSession_hangUp (s := { s with events := s.events.next.2 })
      (hangUp_hungUp code _) phase kept atHand
    exact ⟨lost.phase, lost.complete, lost.ascending, lost.enabled, lost.disabled, lost.packets,
      lost.others, lost.registry⟩

/-- Two requests are in flight, one with a callback and one with a caller that waits, and the
network session ends. -/
def droppedRun : List Move :=
  steadyRun ++
    [⟨.request publishing (.notified (some ⟨"A"⟩)), numbering 1⟩,
     ⟨.request publishing (.waiting ⟨7⟩), numbering 2⟩, ⟨.report (.disconnect 0), numbering 3⟩]

/-- Both requests are parked again in the order of their numbers, and nobody is told. -/
theorem droppedRun_parks :
    let s := run droppedRun (start .standard)
    let t := s.dispatch (numbering 3) 0
    FreshAlong droppedRun (start .standard) ∧ s.nextEvent? = some (.disconnect 0) ∧
      s.phase ∈ [.resubscribing, .draining, .stable, .abnormalDisconnect] ∧
      s.unanswered.map Prod.fst = [1, 2] ∧
      (∃ replays, List.Forall₂ (ReplaysAs (IssuedIn .standard droppedRun)) s.unanswered replays ∧
        t.queue.items = replays ++ s.queue.items) ∧
      tellings (since s t) = [] := by
  intro s t
  have fresh : FreshAlong droppedRun (start .standard) := by decide +kernel
  have next : s.nextEvent? = some (.disconnect 0) := by decide +kernel
  have phase : s.phase ∈ [.resubscribing, .draining, .stable, .abnormalDisconnect] := by
    decide +kernel
  have sorted : s.pending.inFlight = s.pending.entries.filterMap PendingTable.asPacket? :=
    ((Custody.start .standard).run droppedRun fresh).kept.inFlight_eq (by decide +kernel) (.refl _)
  have numbers : s.unanswered.map Prod.fst = [1, 2] := by
    rw [unanswered, sorted]
    decide +kernel
  have lost := (session_lost .standard droppedRun fresh).2 (numbering 3) 0 0 _ next rfl phase
  obtain ⟨⟨replays, each, queue⟩, untold⟩ := lost.enabled (by decide +kernel)
  exact ⟨fresh, next, phase, numbers, ⟨replays, each, congrArg OfflineQueue.items queue⟩, untold⟩

end Session

end DurableMqtt
