import DurableMqtt.Network.Client
import DurableMqtt.Proofs.Network.Tracker

/-!
How the acknowledgments on a connection find their requests.

An identifier may stand for many requests, one after the other. The one that it stands for is the
request of the latest packet that was written under it, until that packet is acknowledged or the
connection ends.
-/

namespace DurableMqtt.Network

namespace Tracker

variable {acts : List Act} {act : Act} {t t' : Tracker} {reports : List Event}

/-! ### Acknowledgments go to the latest packet -/

structure Act.Spares (act : Act) (kind : PacketKind) (packet : UInt16) : Prop where
  unwritten : act.writes? ≠ some (kind, packet)
  unanswered : act.acknowledges? ≠ some (kind, packet)
  connected : act.isEnd = false

/-- The latest packet under an identifier was written for the request, and the packet was not
acknowledged since, nor did the connection end. -/
def Awaited (acts : List Act) (kind : PacketKind) (packet : UInt16) (number : UInt32) : Prop :=
  ∃ before act later, acts = before ++ act :: later ∧ act.writes? = some (kind, packet) ∧
    writtenBy kind act (run before {}) = [number] ∧
    ∀ other ∈ later, other.Spares kind packet

theorem awaited_nil (kind : PacketKind) (packet : UInt16) (number : UInt32) :
    ¬ Awaited [] kind packet number := by
  rintro ⟨before, act, later, parts, -⟩
  simp at parts

theorem awaited_concat (acts : List Act) (act : Act) (kind : PacketKind) (packet : UInt16)
    (number : UInt32) :
    Awaited (acts ++ [act]) kind packet number ↔
      (act.writes? = some (kind, packet) ∧ writtenBy kind act (run acts {}) = [number]) ∨
        (Awaited acts kind packet number ∧ act.Spares kind packet) := by
  constructor
  · rintro ⟨before, first, later, parts, writes, found, left⟩
    cases later using List.reverseRecOn with
    | nil =>
      obtain ⟨rfl, here⟩ := List.append_inj' parts rfl
      cases here
      exact Or.inl ⟨writes, found⟩
    | append_singleton later last =>
      rw [← List.cons_append, ← List.append_assoc] at parts
      obtain ⟨rfl, here⟩ := List.append_inj' parts rfl
      cases here
      have spared := List.forall_mem_append.mp left
      exact Or.inr ⟨⟨before, first, later, rfl, writes, found, spared.1⟩, spared.2 _ (by simp)⟩
  · rintro (⟨writes, found⟩ | ⟨⟨before, first, later, rfl, writes, found, left⟩, spared⟩)
    · exact ⟨acts, act, [], rfl, writes, found, by simp⟩
    · refine ⟨before, first, later ++ [act], by simp, writes, found, ?_⟩
      rw [List.forall_mem_append]
      exact ⟨left, by simpa using spared⟩

theorem writes?_eq_none {notification : Notification}
    (other : ∀ kind packet, notification ≠ .ok (.sent kind packet)) :
    (Act.observe notification).writes? = none := by
  unfold Act.writes?
  split
  next here =>
    cases here
    exact absurd rfl (other _ _)
  next => rfl

theorem Act.Spares.plain {kind : PacketKind} {packet : UInt16} (unwritten : act.writes? = none)
    (unanswered : act.acknowledges? = none) (connected : act.isEnd = false) :
    act.Spares kind packet where
  unwritten := by simp [unwritten]
  unanswered := by simp [unanswered]
  connected := connected

theorem lookup_record (t : Tracker) (p : UInt16) (request : Unsent) (kind : PacketKind)
    (packet : UInt16) :
    ((t.record p request).numbers kind).lookup packet =
      if (request.kind, p) = (kind, packet) then some request.number
      else (t.numbers kind).lookup packet := by
  rw [numbers_record]
  by_cases same : kind = request.kind
  · rw [if_pos same, Numbers.lookup_insert]
    simp [same, eq_comm]
  · rw [if_neg same, if_neg (by simp [Ne.symm same])]

theorem lookup_release (t : Tracker) (k : PacketKind) (p : UInt16) (kind : PacketKind)
    (packet : UInt16) :
    ((t.release k p).numbers kind).lookup packet =
      if (k, p) = (kind, packet) then none else (t.numbers kind).lookup packet := by
  rw [numbers_release]
  by_cases same : kind = k
  · rw [if_pos same, Numbers.lookup_erase]
    simp [same, eq_comm]
  · rw [if_neg same, if_neg (by simp [Ne.symm same])]

theorem acknowledges?_of_meaning {event : WireEvent} {kind : PacketKind} {packet : UInt16}
    {report : UInt32 → Event} (meaning : event.acknowledges? = some (kind, packet, report)) :
    (Act.observe (.ok event)).acknowledges? = some (kind, packet) := by
  rw [Act.acknowledges?, meaning, Option.map_some]

theorem writes?_of_meaning {event : WireEvent} {kind : PacketKind} {packet : UInt16}
    {report : UInt32 → Event} (meaning : event.acknowledges? = some (kind, packet, report)) :
    (Act.observe (.ok event)).writes? = none :=
  writes?_eq_none (ok_ne_sent (WireEvent.ne_sent_of_acknowledges meaning))

theorem spares_iff_of_meaning {event : WireEvent} {k : PacketKind} {p : UInt16}
    {report : UInt32 → Event} (meaning : event.acknowledges? = some (k, p, report))
    (kind : PacketKind) (packet : UInt16) :
    (Act.observe (.ok event)).Spares kind packet ↔ (k, p) ≠ (kind, packet) := by
  constructor
  · intro spares same
    exact spares.unanswered (same ▸ acknowledges?_of_meaning meaning)
  · intro other
    constructor
    · simp [writes?_of_meaning meaning]
    · simpa [acknowledges?_of_meaning meaning] using other
    · exact WireEvent.open_of_acknowledges meaning

def HeldAfter (act : Act) (t : Tracker) (kind : PacketKind) (packet : UInt16) (number : UInt32) :
    Prop :=
  (act.writes? = some (kind, packet) ∧ writtenBy kind act t = [number]) ∨
    ((t.numbers kind).lookup packet = some number ∧ act.Spares kind packet)

theorem held_of_spares {kind : PacketKind} {packet : UInt16} {number : UInt32}
    (same : (t'.numbers kind).lookup packet = (t.numbers kind).lookup packet)
    (spares : act.Spares kind packet) :
    (t'.numbers kind).lookup packet = some number ↔ HeldAfter act t kind packet number := by
  unfold HeldAfter
  rw [same]
  simp [spares, spares.unwritten]

theorem held_of_not_spares {kind : PacketKind} {packet : UInt16} {number : UInt32}
    (gone : (t'.numbers kind).lookup packet = none)
    (unwritten : act.writes? = some (kind, packet) → writtenBy kind act t = [])
    (touches : ¬ act.Spares kind packet) :
    (t'.numbers kind).lookup packet = some number ↔ HeldAfter act t kind packet number := by
  simp only [HeldAfter, gone, touches, and_false, or_false, reduceCtorEq, false_iff]
  rintro ⟨writes, here⟩
  simp [unwritten writes] at here

theorem Outcome.lookup (outcome : Outcome t act reports t') (free : t.isFree act = true)
    (kind : PacketKind) (packet : UInt16) (number : UInt32) :
    (t'.numbers kind).lookup packet = some number ↔ HeldAfter act t kind packet number := by
  have sent (k : PacketKind) (p : UInt16) :
      (Act.observe (.ok (.sent k p))).acknowledges? ≠ some (kind, packet) := by
    simp [Act.acknowledges?, WireEvent.acknowledges?]
  cases outcome with
  | expected | withdrawn => exact held_of_spares rfl (.plain rfl rfl rfl)
  | ended ends =>
    apply held_of_not_spares
    · cases kind <;> rfl
    · simp [writes?_eq_none (ne_sent_of_ends ends)]
    · intro spares
      exact absurd spares.connected (by simp [Act.isEnd, ends])
  | @written k p n rest awaits due =>
    have writes : (Act.observe (.ok (.sent k p))).writes? = some (k, p) := by
      simp [Act.writes?, awaits]
    by_cases here : (k, p) = (kind, packet)
    · cases here
      have touches : ¬ (Act.observe (.ok (.sent kind packet))).Spares kind packet :=
        fun spares => spares.unwritten writes
      simp [HeldAfter, lookup_record, writes, touches, writtenBy_of_due due]
    · obtain ⟨early, late, -, -, rfl⟩ := written?_eq_some due
      apply held_of_spares
      · rw [lookup_record, if_neg here]
        cases kind <;> rfl
      · exact ⟨by simpa [writes] using here, sent k p, rfl⟩
  | completed due =>
    obtain ⟨early, late, -, -, rfl⟩ := written?_eq_some due
    apply held_of_spares
    · cases kind <;> rfl
    · exact .plain rfl rfl rfl
  | @unexpected k p idle =>
    by_cases writes : (Act.observe (.ok (.sent k p))).writes? = some (kind, packet)
    · apply held_of_not_spares
      · simpa [isFree, writes] using free
      · intro _
        apply writtenBy_of_idle idle
      · exact fun spares => spares.unwritten writes
    · exact held_of_spares rfl ⟨writes, sent k p, rfl⟩
  | @acknowledged event k p report n meaning found =>
    by_cases here : (k, p) = (kind, packet)
    · apply held_of_not_spares
      · rw [lookup_release, if_pos here]
      · simp [writes?_of_meaning meaning]
      · simp [spares_iff_of_meaning meaning, here]
    · apply held_of_spares
      · rw [lookup_release, if_neg here]
      · exact (spares_iff_of_meaning meaning kind packet).mpr here
  | @unknown event k p report meaning vacant =>
    by_cases here : (k, p) = (kind, packet)
    · cases here
      apply held_of_not_spares vacant
      · simp [writes?_of_meaning meaning]
      · simp [spares_iff_of_meaning meaning]
    · exact held_of_spares rfl ((spares_iff_of_meaning meaning kind packet).mpr here)
  | aside open' unwritten meaning =>
    apply held_of_spares rfl
    exact .plain (writes?_eq_none (ok_ne_sent unwritten)) (by simp [Act.acknowledges?, meaning])
      open'

theorem lookup_run (free : isFreeAlong acts {} = true) (kind : PacketKind) (packet : UInt16)
    (number : UInt32) :
    ((run acts {}).numbers kind).lookup packet = some number ↔
      Awaited acts kind packet number := by
  induction acts using List.reverseRecOn with
  | nil =>
    constructor
    · intro found
      cases kind <;> cases found
    · intro awaited
      exact absurd awaited (awaited_nil kind packet number)
  | append_singleton acts act ih =>
    rw [isFreeAlong_append, Bool.and_eq_true, isFreeAlong, Bool.and_eq_true] at free
    rw [awaited_concat, run_append, ← ih free.1]
    exact ((run acts {}).outcome act).lookup free.2.1 kind packet number

/-! ### Acknowledgments find their requests -/

theorem Outcome.mem_acknowledged (outcome : Outcome t act reports t') (number : UInt32) :
    number ∈ reports.filterMap numberOf? ↔
      (∃ kind packet, act.acknowledges? = some (kind, packet) ∧
          (t.numbers kind).lookup packet = some number) ∨
        (act = .observe (.ok (.sent .publish 0)) ∧ writtenBy .publish act t = [number]) := by
  cases outcome with
  | expected | withdrawn => simp [Act.acknowledges?]
  | @ended notification _ ends silent =>
    have unanswered : (Act.observe notification).acknowledges? = none := by
      unfold Act.acknowledges?
      split
      next event here =>
        cases here
        cases event <;> first | rfl | cases ends
      next => rfl
    simp [silent, unanswered, ne_sent_of_ends ends]
  | @written kind packet n rest awaits due =>
    have other : ¬ (kind = .publish ∧ packet = 0) := by
      rintro ⟨rfl, rfl⟩
      cases awaits
    simp [Act.acknowledges?, WireEvent.acknowledges?, other]
  | completed due =>
    simp [Act.acknowledges?, WireEvent.acknowledges?, writtenBy_of_due due, Event.puback,
      numberOf?, eq_comm]
  | unexpected idle =>
    simp [Act.acknowledges?, WireEvent.acknowledges?, writtenBy_of_idle idle]
  | acknowledged meaning found =>
    rw [List.filterMap_cons_some (WireEvent.numberOf?_report meaning _)]
    simp [acknowledges?_of_meaning meaning, found, WireEvent.ne_sent_of_acknowledges meaning,
      eq_comm]
  | unknown meaning vacant =>
    simp [acknowledges?_of_meaning meaning, vacant, WireEvent.ne_sent_of_acknowledges meaning]
  | aside open' unwritten meaning silent =>
    simp [silent, Act.acknowledges?, meaning, unwritten]

/-- What the acts come to for the requests that were expected. -/
structure Pairs (acts : List Act) : Prop where
  /-- A request waits in line, waits under a packet of its kind, is acknowledged or is given up. -/
  placed : ((run acts {}).outstanding ++ along acknowledgedBy acts {} ++
    along givenUpBy acts {}).Perm ((expectedAlong acts).map (·.number))
  once : ((run acts {}).outstanding ++ along acknowledgedBy acts {} ++
    along givenUpBy acts {}).Nodup
  inOrder : ∀ kind, (along (writtenBy kind) acts {} ++ numbersOf kind (run acts {}).unsent).Sublist
    (numbersOf kind (expectedAlong acts))
  /-- A packet takes the oldest request of its kind out of the line, and no other. -/
  oldest : ∀ kind packet k act, act = .observe (.ok (.sent kind packet)) →
    writtenBy k act (run acts {}) =
        (if k = kind then (numbersOf k (run acts {}).unsent).take 1 else []) ∧
      writtenBy k act (run acts {}) ++ numbersOf k (run (acts ++ [act]) {}).unsent =
        numbersOf k (run acts {}).unsent
  /-- An acknowledgment is reported for the request of the latest packet, or not at all. -/
  paired : ∀ event kind packet report, event.acknowledges? = some (kind, packet, report) →
    ∀ e, ((run acts {}).translate event).1 = some e ↔
      ∃ number, Awaited acts kind packet number ∧ e = report number
  /-- Nothing else reports a request but a publish that expects no acknowledgment. -/
  answered : ∀ act number, number ∈ acknowledgedBy act (run acts {}) ↔
    (∃ kind packet, act.acknowledges? = some (kind, packet) ∧ Awaited acts kind packet number) ∨
      (act = .observe (.ok (.sent .publish 0)) ∧ writtenBy .publish act (run acts {}) = [number])
  restored : ∀ kind number, number ∉ (expectedAlong acts).map (·.number) →
    ((run acts {}).expect kind number).forget number = run acts {}
  /-- Once the connection ends, nothing waits and no earlier request is reported. -/
  ended : ∀ before act later, acts = before ++ act :: later → act.isEnd = true →
    run (before ++ [act]) {} = {} ∧
      ∀ number ∈ (expectedAlong before).map (·.number),
        number ∉ along acknowledgedBy (act :: later) (run before {})

theorem forget_expect {number : UInt32} (fresh : number ∉ t.outstanding) (kind : PacketKind) :
    (t.expect kind number).forget number = t := by
  have others : ∀ u ∈ t.unsent, (u.number != number) = true := by
    intro u member
    apply bne_iff_ne.mpr
    rintro rfl
    apply fresh
    simp [outstanding, List.mem_map_of_mem member]
  rw [forget, expect, List.filter_append, List.filter_eq_self.mpr others]
  simp

theorem Outcome.of_isEnd (outcome : Outcome t act reports t') (ends : act.isEnd = true) :
    t' = {} ∧ reports.filterMap numberOf? = [] := by
  cases outcome with
  | expected | withdrawn | written | completed | unexpected => cases ends
  | ended ends silent => exact ⟨rfl, silent⟩
  | acknowledged meaning | unknown meaning =>
    cases ends.symm.trans (WireEvent.open_of_acknowledges meaning)
  | aside open' => cases ends.symm.trans open'

theorem expectedAlong_append (first second : List Act) :
    expectedAlong (first ++ second) = expectedAlong first ++ expectedAlong second :=
  List.filterMap_append

/-- So long as requests have numbers of their own and no identifier is given to a packet while
another one of its kind holds it, acknowledgments find their requests. -/
theorem acknowledgments_paired (distinct : ((expectedAlong acts).map (·.number)).Nodup)
    (free : isFreeAlong acts {} = true) : Pairs acts where
  placed := perm_run free
  once := (perm_run free).nodup_iff.mpr distinct
  inOrder kind := inOrder_run acts {} kind
  oldest kind packet k act sent := by
    subst sent
    rw [run_append]
    exact ⟨writtenBy_sent _ kind packet k, ((run acts {}).outcome _).numbersOf_sent k⟩
  paired event kind packet report meaning e := by
    rw [translate_of_acknowledges meaning]
    simp only [← lookup_run free]
    split
    next number found => simp [found, eq_comm]
    next vacant => simp [vacant]
  answered act number := by
    simp only [← lookup_run free]
    exact ((run acts {}).outcome act).mem_acknowledged number
  restored kind number fresh := by
    apply forget_expect
    intro waits
    apply fresh
    apply (perm_run free).subset
    rw [List.append_assoc]
    exact List.mem_append_left _ waits
  ended before act later parts ends := by
    subst parts
    obtain ⟨emptied, silent⟩ := ((run before {}).outcome act).of_isEnd ends
    rw [isFreeAlong_append, Bool.and_eq_true, isFreeAlong, Bool.and_eq_true, emptied] at free
    rw [run_append]
    refine ⟨emptied, ?_⟩
    intro number earlier again
    rw [along, acknowledgedBy, silent, emptied, List.nil_append] at again
    have expected : number ∈ (expectedAlong later).map (·.number) := by
      apply (perm_run free.2.2).subset
      simp [again]
    rw [expectedAlong_append, expectedAlong_cons, List.map_append, List.map_append] at distinct
    exact (List.nodup_append.mp distinct).2.2 number earlier number
      (List.mem_append_right _ expected) rfl

/-- A publish gets the identifier 7, as does a subscription at the same time, and a later publish
once the first one is acknowledged. A request is taken back, two acknowledgments find none, and the
connection is lost with a publish under 7. -/
def reusingActs : List Act :=
  [.expect .publish 1, .expect .subscribe 2, .expect .publish 3, .expect .publish 4, .forget 4,
    .observe (.ok (.sent .publish 7)), .observe (.ok (.sent .subscribe 7)),
    .observe (.ok (.puback 7)), .observe (.ok (.puback 7)), .observe (.ok (.puback 9)),
    .observe (.ok (.sent .publish 0)), .observe (.ok (.suback 7 [some .atLeastOnce])),
    .expect .publish 5, .observe (.ok (.sent .publish 7)), .observe (.error .networkTimeout),
    .expect .publish 6, .observe (.ok (.sent .publish 7)), .observe (.ok (.puback 7))]

theorem reusingActs_pairs :
    Pairs reusingActs ∧ along acknowledgedBy reusingActs {} = [1, 3, 2, 6] ∧
      along givenUpBy reusingActs {} = [4, 5] :=
  ⟨acknowledgments_paired (by decide) (by decide), by decide, by decide⟩

end Tracker

theorem Client.send_of_full {c : Client} {connection : Connection} {call : EngineCall}
    {kind : PacketKind} (active : c.connection = some connection)
    (full : c.hasRoom connection = false)
    (fresh : nextNumber c.lastNumber ∉ connection.link.tracker.outstanding) :
    c.send call kind = (.error lineFault, { c with lastNumber := nextNumber c.lastNumber }) := by
  unfold hasRoom at full
  unfold send hasRoom
  simp [active, full, Tracker.forget_expect fresh]

end DurableMqtt.Network
