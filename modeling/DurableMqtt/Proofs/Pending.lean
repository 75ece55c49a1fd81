import Mathlib
import DurableMqtt.Pending

/-!
The pending table as the keeper of requests that were sent: each stands once, under the number of
its packet, until it is acknowledged or sent again.
-/

namespace DurableMqtt

/-- An accepted request apart from its listener, which may change while the request is held. -/
def Accepted.content (a : Accepted) : Accepted :=
  { a with request := a.request.withListener none }

namespace PendingEntry

def ticket? (e : PendingEntry) : Option Nat := e.replay.map Accepted.ticket

def content? (e : PendingEntry) : Option Accepted := e.replay.map Accepted.content

theorem content?_ticket (e : PendingEntry) : e.content?.map Accepted.ticket = e.ticket? := by
  unfold content? ticket?
  rw [Option.map_map]
  rfl

theorem content?_replayed (e : PendingEntry) : e.replayed.map Accepted.content = e.content? := by
  unfold replayed content?
  rw [Option.map_map]
  rfl

end PendingEntry

namespace PendingTable

variable {t : PendingTable} {id : RequestId}

theorem asPacket?_eq_some {entry : RequestId × PendingEntry} {packet : UInt32 × PendingEntry} :
    asPacket? entry = some packet ↔ entry = (.packet packet.1, packet.2) := by
  obtain ⟨id, e⟩ := entry
  cases id <;> simp [asPacket?, Prod.ext_iff]

theorem asPacket?_of_other (other : ∀ number, id ≠ .packet number) (e : PendingEntry) :
    asPacket? (id, e) = none := by
  cases id with
  | packet number => exact absurd rfl (other number)
  | _ => rfl

def contents (t : PendingTable) : List Accepted := t.entries.filterMap (·.2.content?)

/-- No identifier stands twice, and only requests in flight are kept for another session. -/
structure WellKept (t : PendingTable) : Prop where
  distinct : (t.entries.map Prod.fst).Nodup
  packets : ∀ entry ∈ t.entries, entry.2.replay.isSome →
    (asPacket? entry).isSome ∧ entry.2.resubscribe = false

theorem WellKept.empty : WellKept {} := by
  constructor
  · exact List.nodup_nil
  · intro entry member
    exact absurd member List.not_mem_nil

theorem nodup_filter (distinct : (t.entries.map Prod.fst).Nodup)
    (p : RequestId × PendingEntry → Bool) : ((t.entries.filter p).map Prod.fst).Nodup :=
  (List.filter_sublist.map Prod.fst).nodup distinct

theorem nodup_insert (distinct : (t.entries.map Prod.fst).Nodup) (id : RequestId)
    (e : PendingEntry) : ((t.insert id e).entries.map Prod.fst).Nodup := by
  have apart : id ∉ (t.entries.filter (·.1 != id)).map Prod.fst := by simp
  simp only [PendingTable.insert, List.map_append, List.map_cons, List.map_nil]
  refine List.nodup_append.mpr ⟨nodup_filter distinct _, List.nodup_singleton id, ?_⟩
  rintro a member b single rfl
  rw [List.mem_singleton.mp single] at member
  exact apart member

theorem WellKept.filter (kept : t.WellKept) (p : RequestId × PendingEntry → Bool) :
    WellKept ⟨t.entries.filter p⟩ := by
  constructor
  · exact nodup_filter kept.distinct p
  · intro entry member
    exact kept.packets entry (List.mem_of_mem_filter member)

theorem WellKept.erase (kept : t.WellKept) (id : RequestId) : (t.erase id).WellKept :=
  kept.filter _

theorem WellKept.insert (kept : t.WellKept) (id : RequestId) (e : PendingEntry)
    (sound : e.replay.isSome → (asPacket? (id, e)).isSome ∧ e.resubscribe = false) :
    (t.insert id e).WellKept := by
  constructor
  · exact nodup_insert kept.distinct id e
  · intro entry member
    rcases List.mem_append.mp member with old | new
    · exact (kept.erase id).packets entry old
    · rw [List.mem_singleton.mp new]
      exact sound

theorem find?_none (absent : t.find? id = none) : ∀ entry ∈ t.entries, entry.1 ≠ id := by
  simpa [find?] using absent

theorem mem_of_find? {e : PendingEntry} (found : t.find? id = some e) : (id, e) ∈ t.entries := by
  obtain ⟨entry, first, rfl⟩ := Option.map_eq_some_iff.mp found
  have same : entry.1 = id := by simpa using List.find?_some first
  rw [← same]
  exact List.mem_of_find?_eq_some first

theorem find?_filter_of_imp {α : Type} {p q : α → Bool} {l : List α} (kept : ∀ a, q a → p a) :
    (l.filter p).find? q = l.find? q := by
  rw [List.find?_filter]
  congr 1
  funext a
  cases here : q a with
  | true => simp [kept a here]
  | false => simp

theorem find?_key_eq_some_iff {α κ : Type} [DecidableEq κ] {key : α → κ} {l : List α}
    (distinct : (l.map key).Nodup) {k : κ} {a : α} :
    l.find? (fun a => key a == k) = some a ↔ a ∈ l ∧ key a = k := by
  constructor
  · intro found
    exact ⟨List.mem_of_find?_eq_some found, by simpa using List.find?_some found⟩
  · rintro ⟨member, rfl⟩
    cases found : l.find? (fun other => key other == key a) with
    | none =>
      have absent := List.find?_eq_none.mp found a member
      simp at absent
    | some other =>
      have same : key other = key a := by simpa using List.find?_some found
      have stands := List.mem_of_find?_eq_some found
      exact congrArg some (List.inj_on_of_nodup_map distinct stands member same)

theorem find?_eq_some_iff (distinct : (t.entries.map Prod.fst).Nodup) {e : PendingEntry} :
    t.find? id = some e ↔ (id, e) ∈ t.entries := by
  rw [find?, Option.map_eq_some_iff]
  simp only [find?_key_eq_some_iff distinct]
  constructor
  · rintro ⟨entry, ⟨member, rfl⟩, rfl⟩
    exact member
  · intro member
    exact ⟨(id, e), ⟨member, rfl⟩, rfl⟩

theorem find?_erase_self : (t.erase id).find? id = none := by
  simp [find?, PendingTable.erase]

theorem find?_erase_of_ne {other : RequestId} (apart : other ≠ id) :
    (t.erase id).find? other = t.find? other := by
  unfold find? PendingTable.erase
  rw [find?_filter_of_imp]
  intro entry here
  rw [beq_iff_eq.mp here]
  exact bne_iff_ne.mpr apart

theorem find?_insert_self (e : PendingEntry) : (t.insert id e).find? id = some e := by
  have gone : (t.entries.filter (·.1 != id)).find? (·.1 == id) = none := by simp
  simp [find?, PendingTable.insert, List.find?_append, gone]

theorem find?_insert_of_ne {other : RequestId} (apart : other ≠ id) (e : PendingEntry) :
    (t.insert id e).find? other = t.find? other := by
  have elsewhere : ([(id, e)] : List (RequestId × PendingEntry)).find? (·.1 == other) = none := by
    simp [apart.symm]
  refine Eq.trans ?_ (find?_erase_of_ne apart)
  simp only [find?, PendingTable.insert, PendingTable.erase, List.find?_append, elsewhere,
    Option.or_none]

theorem find?_withoutPackets (other : ∀ e, asPacket? (id, e) = none) :
    t.withoutPackets.find? id = t.find? id := by
  unfold find? withoutPackets
  rw [find?_filter_of_imp]
  intro entry here
  rw [← beq_iff_eq.mp here] at other
  exact Option.isNone_iff_eq_none.mpr (other entry.2)

theorem contents_insert (e : PendingEntry)
    (replaced : ∀ entry ∈ t.entries, entry.1 = id → entry.2.replay = none) :
    (t.insert id e).contents = t.contents ++ e.content?.toList := by
  have others : (t.entries.filter (·.1 != id)).filterMap (·.2.content?) =
      t.entries.filterMap (·.2.content?) := by
    rw [List.filterMap_filter]
    refine List.filterMap_congr fun entry member => ?_
    by_cases same : entry.1 = id
    · simp [same, PendingEntry.content?, replaced entry member same]
    · simp [same]
  simp only [contents, PendingTable.insert, List.filterMap_append, others]
  cases found : e.content? <;> simp [found]

theorem contents_erase (kept : t.WellKept) (e : PendingEntry) (found : t.find? id = some e) :
    t.contents.Perm (e.content?.toList ++ (t.erase id).contents) := by
  obtain ⟨entry, first, rfl⟩ := Option.map_eq_some_iff.mp found
  obtain ⟨here, before, after, split, earlier⟩ := List.find?_eq_some_iff_append.mp first
  have same : entry.1 = id := by simpa using here
  have distinct := kept.distinct
  simp only [split, List.map_append, List.map_cons, List.nodup_append, List.nodup_cons] at distinct
  have later : ∀ other ∈ after, other.1 ≠ id := by
    intro other member equal
    exact distinct.2.1.1 (List.mem_map.mpr ⟨other, member, equal.trans same.symm⟩)
  have left : (t.erase id).entries = before ++ after := by
    simp only [PendingTable.erase, split, List.filter_append, List.filter_cons, same, bne_self_eq_false,
      Bool.false_eq_true, ↓reduceIte]
    congr 1
    · exact List.filter_eq_self.mpr fun other member => by simpa using earlier other member
    · exact List.filter_eq_self.mpr fun other member => by simpa using later other member
  simp only [contents, left]
  rw [split]
  simp only [List.filterMap_append, List.filterMap_cons]
  cases entry.2.content? with
  | none => exact List.Perm.refl _
  | some content => exact List.perm_middle

theorem WellKept.content?_of_not_packet (kept : t.WellKept) (entry : RequestId × PendingEntry)
    (member : entry ∈ t.entries) (other : asPacket? entry = none) : entry.2.content? = none := by
  unfold PendingEntry.content?
  cases replay : entry.2.replay with
  | none => rfl
  | some a =>
    have packet := (kept.packets entry member (by rw [replay]; rfl)).1
    rw [other] at packet
    exact absurd packet Bool.false_ne_true

theorem WellKept.insert_plain (kept : t.WellKept) (id : RequestId) (e : PendingEntry)
    (plain : e.replay = none) : (t.insert id e).WellKept := by
  refine kept.insert id e fun keeps => ?_
  rw [plain] at keeps
  exact absurd keeps Bool.false_ne_true

theorem WellKept.contents_insert_plain (kept : t.WellKept) (other : ∀ e, asPacket? (id, e) = none)
    (e : PendingEntry) (plain : e.replay = none) : (t.insert id e).contents = t.contents := by
  have replaced : ∀ entry ∈ t.entries, entry.1 = id → entry.2.replay = none := by
    rintro ⟨_, stored⟩ member rfl
    have silent := kept.content?_of_not_packet _ member (other stored)
    exact Option.map_eq_none_iff.mp silent
  rw [contents_insert e replaced, PendingEntry.content?, plain]
  exact List.append_nil _

theorem WellKept.contents_erase_plain (kept : t.WellKept)
    (other : ∀ e, asPacket? (id, e) = none) : (t.erase id).contents = t.contents := by
  unfold contents PendingTable.erase
  rw [List.filterMap_filter]
  refine List.filterMap_congr fun entry member => ?_
  by_cases same : entry.1 = id
  · obtain ⟨_, stored⟩ := entry
    cases same
    simp [kept.content?_of_not_packet _ member (other stored)]
  · simp [same]

theorem contents_withoutPackets (kept : t.WellKept) : t.withoutPackets.contents = [] := by
  refine List.filterMap_eq_nil_iff.mpr fun entry member => ?_
  obtain ⟨stored, other⟩ := List.mem_filter.mp member
  exact kept.content?_of_not_packet entry stored (Option.isNone_iff_eq_none.mp other)

theorem inFlight_perm (t : PendingTable) : t.inFlight.Perm (t.entries.filterMap asPacket?) :=
  List.mergeSort_perm _ _

theorem contents_inFlight (kept : t.WellKept) :
    (t.inFlight.filterMap (·.2.content?)).Perm t.contents := by
  refine ((inFlight_perm t).filterMap _).trans (List.Perm.of_eq ?_)
  rw [List.filterMap_filterMap]
  refine List.filterMap_congr fun entry member => ?_
  cases packet : asPacket? entry with
  | none => exact (kept.content?_of_not_packet entry member packet).symm
  | some found =>
    rw [asPacket?_eq_some.mp packet]
    rfl

theorem mem_inFlight {entry : UInt32 × PendingEntry} :
    entry ∈ t.inFlight ↔ (RequestId.packet entry.1, entry.2) ∈ t.entries := by
  unfold inFlight
  rw [List.mem_mergeSort, List.mem_filterMap]
  constructor
  · rintro ⟨stored, member, packet⟩
    rw [← asPacket?_eq_some.mp packet]
    exact member
  · intro member
    exact ⟨_, member, rfl⟩

/-! ### The order of the numbers -/

theorem numbers_distinct (distinct : (t.entries.map Prod.fst).Nodup) :
    (t.entries.filterMap asPacket?).Pairwise fun a b => a.1 ≠ b.1 := by
  have distinct := List.pairwise_map.mp distinct
  refine List.pairwise_filterMap.mpr (distinct.imp fun apart a first b second same => apart ?_)
  rw [asPacket?_eq_some.mp first, asPacket?_eq_some.mp second, same]

theorem inFlight_ascending (distinct : (t.entries.map Prod.fst).Nodup) :
    t.inFlight.Pairwise fun a b => a.1 < b.1 := by
  have sorted : t.inFlight.Pairwise fun a b => a.1 ≤ b.1 := by
    have steps := @List.pairwise_mergeSort _ (fun a b : UInt32 × PendingEntry => a.1 ≤ b.1)
      (fun a b c first second => decide_eq_true
        (UInt32.le_trans (of_decide_eq_true first) (of_decide_eq_true second)))
      (fun a b => by simp [UInt32.le_total a.1 b.1]) (t.entries.filterMap asPacket?)
    exact steps.imp of_decide_eq_true
  have distinct : t.inFlight.Pairwise fun a b => a.1 ≠ b.1 :=
    (inFlight_perm t).symm.pairwise (numbers_distinct distinct) fun apart same => apart same.symm
  exact (sorted.and distinct).imp fun ⟨below, apart⟩ =>
    UInt32.lt_of_le_of_ne below apart

theorem inFlight_eq (distinct : (t.entries.map Prod.fst).Nodup)
    {entries : List (UInt32 × PendingEntry)} (ascending : entries.Pairwise fun a b => a.1 < b.1)
    (same : entries.Perm (t.entries.filterMap asPacket?)) : t.inFlight = entries := by
  refine List.Perm.eq_of_pairwise (fun a b _ _ below above => ?_) (inFlight_ascending distinct)
    ascending ((inFlight_perm t).trans same.symm)
  exact absurd above (UInt32.lt_asymm below)

theorem WellKept.inFlight_ascending (kept : t.WellKept) :
    t.inFlight.Pairwise fun a b => a.1 < b.1 := PendingTable.inFlight_ascending kept.distinct

theorem WellKept.inFlight_eq (kept : t.WellKept) {entries : List (UInt32 × PendingEntry)}
    (ascending : entries.Pairwise fun a b => a.1 < b.1)
    (same : entries.Perm (t.entries.filterMap asPacket?)) : t.inFlight = entries :=
  PendingTable.inFlight_eq kept.distinct ascending same

theorem WellKept.inFlight_insert_last (kept : t.WellKept) (number : UInt32) (e : PendingEntry)
    (plain : e.replay.isSome → e.resubscribe = false)
    (newest : ∀ entry ∈ t.inFlight, entry.1 < number) :
    (t.insert (.packet number) e).inFlight = t.inFlight ++ [(number, e)] := by
  have keeps : (t.insert (.packet number) e).WellKept :=
    kept.insert _ _ fun replay => ⟨rfl, plain replay⟩
  have absent : ∀ entry ∈ t.entries, (entry.1 != .packet number) = true := by
    rintro ⟨_, stored⟩ member
    rw [bne_iff_ne]
    rintro rfl
    exact UInt32.lt_irrefl _ (newest (number, stored) (mem_inFlight.mpr member))
  refine keeps.inFlight_eq (List.pairwise_append.mpr ⟨kept.inFlight_ascending, ?_, ?_⟩) ?_
  · exact List.pairwise_singleton _ _
  · intro entry member last single
    rw [List.mem_singleton.mp single]
    exact newest entry member
  · rw [PendingTable.insert, List.filter_eq_self.mpr absent, List.filterMap_append]
    exact (inFlight_perm t).append_right _

theorem WellKept.inFlight_filter (kept : t.WellKept) (p : RequestId × PendingEntry → Bool) :
    (PendingTable.mk (t.entries.filter p)).inFlight.Sublist t.inFlight := by
  have left : (PendingTable.mk (t.entries.filter p)).inFlight =
      t.inFlight.filter fun entry => p (.packet entry.1, entry.2) := by
    refine (kept.filter p).inFlight_eq (kept.inFlight_ascending.sublist List.filter_sublist) ?_
    refine ((inFlight_perm t).filter _).trans (List.Perm.of_eq ?_)
    rw [List.filter_filterMap, List.filterMap_filter]
    refine List.filterMap_congr fun entry _ => ?_
    cases packet : asPacket? entry with
    | none => simp
    | some found =>
      rw [asPacket?_eq_some.mp packet]
      rfl
  rw [left]
  exact List.filter_sublist

theorem inFlight_erase_other (other : ∀ e, asPacket? (id, e) = none) :
    (t.erase id).inFlight = t.inFlight := by
  unfold inFlight PendingTable.erase
  congr 1
  rw [List.filterMap_filter]
  refine List.filterMap_congr fun entry _ => ?_
  by_cases same : entry.1 = id
  · obtain ⟨_, stored⟩ := entry
    cases same
    simp [other stored]
  · simp [same]

theorem inFlight_insert_other (other : ∀ e, asPacket? (id, e) = none) (e : PendingEntry) :
    (t.insert id e).inFlight = t.inFlight := by
  refine Eq.trans ?_ (inFlight_erase_other other)
  unfold inFlight PendingTable.insert PendingTable.erase
  rw [List.filterMap_append, List.filterMap_cons, other e, List.filterMap_nil, List.append_nil]

theorem inFlight_withoutPackets : t.withoutPackets.inFlight = [] := by
  have none : t.withoutPackets.entries.filterMap asPacket? = [] := by
    refine List.filterMap_eq_nil_iff.mpr fun entry member => ?_
    exact Option.isNone_iff_eq_none.mp (List.mem_filter.mp member).2
  unfold inFlight
  rw [none, List.mergeSort_nil]

theorem find?_packet_withoutPackets (t : PendingTable) (number : UInt32) :
    t.withoutPackets.find? (.packet number) = none := by
  by_contra found
  obtain ⟨e, stands⟩ := Option.ne_none_iff_exists'.mp found
  have inFlight : (number, e) ∈ t.withoutPackets.inFlight := mem_inFlight.mpr (mem_of_find? stands)
  rw [inFlight_withoutPackets] at inFlight
  exact List.not_mem_nil inFlight

end PendingTable

end DurableMqtt
