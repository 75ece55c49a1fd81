import Mathlib
import DurableMqtt.Network.Link

/-!
The requests on a connection, from one act to the next.

A request that is expected waits in line until a packet of its kind is written, and then under the
identifier of that packet until its acknowledgment is read. Packet identifiers are used again and
again, and each kind has its own. So long as none is given to a packet while another one of the kind
holds it, every request is in one place at a time, and the requests of a kind are written in their
order.
-/

namespace DurableMqtt.Network

def numberOf? (e : Event) : Option UInt32 :=
  match e.id with
  | .packet number => some number
  | _ => none

/-- A publish under the identifier 0 is done once it is written. Any other packet awaits an
acknowledgment. -/
def awaitsAck (kind : PacketKind) (packet : UInt16) : Bool := !(kind == .publish && packet == 0)

namespace WireEvent

def acknowledges? : WireEvent → Option (PacketKind × UInt16 × (UInt32 → Event))
  | puback packet => some (.publish, packet, .puback)
  | suback packet codes => some (.subscribe, packet, fun number =>
      .suback number (Tracker.granted codes))
  | unsuback packet => some (.unsubscribe, packet, .unsuback)
  | _ => none

variable {event : WireEvent} {kind : PacketKind} {packet : UInt16} {report : UInt32 → Event}

theorem numberOf?_report (meaning : event.acknowledges? = some (kind, packet, report))
    (number : UInt32) : numberOf? (report number) = some number := by
  unfold acknowledges? at meaning
  split at meaning <;> cases meaning <;> rfl

theorem open_of_acknowledges (meaning : event.acknowledges? = some (kind, packet, report)) :
    endsConnection (.ok event) = false := by
  unfold acknowledges? at meaning
  split at meaning <;> cases meaning <;> rfl

theorem ne_sent_of_acknowledges (meaning : event.acknowledges? = some (kind, packet, report))
    (k : PacketKind) (p : UInt16) : event ≠ .sent k p := by
  rintro rfl
  cases meaning

end WireEvent

namespace Numbers

/-! ### Requests under their packets -/

variable {numbers : Numbers} {packet p : UInt16} {number : UInt32}

theorem lookup_erase (numbers : Numbers) (packet p : UInt16) :
    (numbers.erase packet).lookup p = if p = packet then none else numbers.lookup p := by
  unfold erase
  induction numbers with
  | nil => split <;> rfl
  | cons entry rest ih =>
    obtain ⟨q, n⟩ := entry
    by_cases here : q = packet
    · rw [List.filter_cons_of_neg (by simp [here]), ih]
      split
      next => rfl
      next other => rw [List.lookup_cons, here, beq_false_of_ne other]
    · rw [List.filter_cons_of_pos (by simp [here]), List.lookup_cons, List.lookup_cons, ih]
      by_cases same : p = q
      · simp [same, here]
      · rw [beq_false_of_ne same]

theorem lookup_insert (numbers : Numbers) (packet p : UInt16) (number : UInt32) :
    (numbers.insert packet number).lookup p =
      if p = packet then some number else numbers.lookup p := by
  change ((packet, number) :: numbers.erase packet).lookup p = _
  rw [List.lookup_cons, lookup_erase]
  by_cases same : p = packet
  · simp [same]
  · rw [beq_false_of_ne same, if_neg same, if_neg same]

theorem erase_of_free (free : numbers.lookup packet = none) : numbers.erase packet = numbers := by
  apply List.filter_eq_self.mpr
  intro entry member
  simpa [bne_comm] using List.lookup_eq_none_iff.mp free entry member

theorem insert_of_free (free : numbers.lookup packet = none) (number : UInt32) :
    numbers.insert packet number = (packet, number) :: numbers :=
  congrArg _ (erase_of_free free)

theorem mem_keys_erase (member : p ∈ (numbers.erase packet).map Prod.fst) :
    p ≠ packet ∧ p ∈ numbers.map Prod.fst := by
  obtain ⟨entry, stands, rfl⟩ := List.mem_map.mp member
  obtain ⟨there, other⟩ := List.mem_filter.mp stands
  exact ⟨by simpa using other, List.mem_map_of_mem there⟩

theorem nodup_erase (once : (numbers.map Prod.fst).Nodup) (packet : UInt16) :
    ((numbers.erase packet).map Prod.fst).Nodup :=
  once.sublist (List.filter_sublist.map Prod.fst)

theorem nodup_insert (once : (numbers.map Prod.fst).Nodup) (packet : UInt16) (number : UInt32) :
    ((numbers.insert packet number).map Prod.fst).Nodup := by
  apply List.nodup_cons.mpr
  exact ⟨fun member => (mem_keys_erase member).1 rfl, nodup_erase once packet⟩

theorem count_erase (once : (numbers.map Prod.fst).Nodup)
    (found : numbers.lookup packet = some number) (n : UInt32) :
    (numbers.map Prod.snd).count n =
      ((numbers.erase packet).map Prod.snd).count n + [number].count n := by
  induction numbers with
  | nil => cases found
  | cons entry rest ih =>
    obtain ⟨q, m⟩ := entry
    rw [List.map_cons, List.nodup_cons] at once
    by_cases here : packet = q
    · have absent : rest.lookup packet = none := by
        apply List.lookup_eq_none_iff.mpr
        intro other member
        have apart : packet ≠ other.1 := by
          rintro rfl
          apply once.1
          exact here ▸ List.mem_map.mpr ⟨other, member, rfl⟩
        simpa using apart
      rw [List.lookup_cons, here, beq_self_eq_true] at found
      have kept : Numbers.erase ((q, m) :: rest) packet = rest := by
        unfold Numbers.erase
        rw [List.filter_cons_of_neg (by simp [here])]
        exact erase_of_free absent
      rw [kept, Option.some.inj found, List.map_cons, List.count_cons, List.count_singleton]
    · rw [List.lookup_cons, beq_false_of_ne here] at found
      have kept : Numbers.erase ((q, m) :: rest) packet = (q, m) :: Numbers.erase rest packet :=
        List.filter_cons_of_pos (by simpa using Ne.symm here)
      rw [kept, List.map_cons, List.map_cons, List.count_cons, List.count_cons, ih once.2 found]
      omega

end Numbers

namespace Tracker

/-! ### Acts -/

inductive Act where
  | expect (kind : PacketKind) (number : UInt32)
  | forget (number : UInt32)
  | observe (notification : Notification)

namespace Act

def writes? : Act → Option (PacketKind × UInt16)
  | .observe (.ok (.sent kind packet)) =>
    if awaitsAck kind packet then some (kind, packet) else none
  | _ => none

def acknowledges? : Act → Option (PacketKind × UInt16)
  | .observe (.ok event) => event.acknowledges?.map fun (kind, packet, _) => (kind, packet)
  | _ => none

def isEnd : Act → Bool
  | .observe notification => endsConnection notification
  | _ => false

def expects? : Act → Option Unsent
  | .expect kind number => some ⟨kind, number⟩
  | _ => none

end Act

def perform (t : Tracker) : Act → List Event × Tracker
  | .expect kind number => ([], t.expect kind number)
  | .forget number => ([], t.forget number)
  | .observe notification => t.observe notification

def run : List Act → Tracker → Tracker
  | [], t => t
  | act :: rest, t => run rest (t.perform act).2

def numbers (t : Tracker) : PacketKind → Numbers
  | .publish => t.publishes
  | .subscribe => t.subscribes
  | .unsubscribe => t.unsubscribes

def numbersOf (kind : PacketKind) (requests : List Unsent) : List UInt32 :=
  (requests.filter (·.kind == kind)).map (·.number)

def outstanding (t : Tracker) : List UInt32 :=
  t.unsent.map (·.number) ++ t.publishes.map Prod.snd ++ t.subscribes.map Prod.snd ++
    t.unsubscribes.map Prod.snd

/-- No packet is written under an identifier that another packet of its kind still holds. -/
def isFree (t : Tracker) (act : Act) : Bool :=
  match act.writes? with
  | some (kind, packet) => ((t.numbers kind).lookup packet).isNone
  | none => true

def isFreeAlong : List Act → Tracker → Bool
  | [], _ => true
  | act :: rest, t => t.isFree act && isFreeAlong rest (t.perform act).2

def expectedAlong (acts : List Act) : List Unsent := acts.filterMap Act.expects?

def writtenBy (kind : PacketKind) (act : Act) (t : Tracker) : List UInt32 :=
  match act with
  | .observe (.ok (.sent k _)) => if k = kind then ((t.written? kind).map Prod.fst).toList else []
  | _ => []

def acknowledgedBy (act : Act) (t : Tracker) : List UInt32 :=
  (t.perform act).1.filterMap numberOf?

/-- The requests that an act gives up: one that is taken back, or all at the end of the
connection. -/
def givenUpBy (act : Act) (t : Tracker) : List UInt32 :=
  match act with
  | .expect .. => []
  | .forget number => (t.unsent.filter (·.number == number)).map (·.number)
  | .observe notification => if endsConnection notification then t.outstanding else []

def along (share : Act → Tracker → List UInt32) : List Act → Tracker → List UInt32
  | [], _ => []
  | act :: rest, t => share act t ++ along share rest (t.perform act).2

variable {acts : List Act} {act : Act} {t t' : Tracker} {reports : List Event}

theorem run_append (first second : List Act) (t : Tracker) :
    run (first ++ second) t = run second (run first t) := by
  induction first generalizing t with
  | nil => rfl
  | cons act rest ih => apply ih

theorem isFreeAlong_append (first second : List Act) (t : Tracker) :
    isFreeAlong (first ++ second) t =
      (isFreeAlong first t && isFreeAlong second (run first t)) := by
  induction first generalizing t with
  | nil => rfl
  | cons act rest ih => rw [List.cons_append, isFreeAlong, ih, isFreeAlong, Bool.and_assoc, run]

/-! ### What an act comes to -/

def record (t : Tracker) (packet : UInt16) (request : Unsent) : Tracker :=
  match request.kind with
  | .publish => { t with publishes := t.publishes.insert packet request.number }
  | .subscribe => { t with subscribes := t.subscribes.insert packet request.number }
  | .unsubscribe => { t with unsubscribes := t.unsubscribes.insert packet request.number }

def release (t : Tracker) (kind : PacketKind) (packet : UInt16) : Tracker :=
  match kind with
  | .publish => { t with publishes := t.publishes.erase packet }
  | .subscribe => { t with subscribes := t.subscribes.erase packet }
  | .unsubscribe => { t with unsubscribes := t.unsubscribes.erase packet }

@[simp]
theorem unsent_record (t : Tracker) (packet : UInt16) (request : Unsent) :
    (t.record packet request).unsent = t.unsent := by
  unfold record
  split <;> rfl

@[simp]
theorem unsent_release (t : Tracker) (kind : PacketKind) (packet : UInt16) :
    (t.release kind packet).unsent = t.unsent := by
  unfold release
  split <;> rfl

theorem numbers_record (t : Tracker) (packet : UInt16) (request : Unsent) (kind : PacketKind) :
    (t.record packet request).numbers kind =
      if kind = request.kind then (t.numbers kind).insert packet request.number
      else t.numbers kind := by
  obtain ⟨k, number⟩ := request
  cases k <;> cases kind <;> rfl

theorem numbers_release (t : Tracker) (kind k : PacketKind) (packet : UInt16) :
    (t.release kind packet).numbers k =
      if k = kind then (t.numbers k).erase packet else t.numbers k := by
  cases k <;> cases kind <;> rfl

theorem written?_eq_some {kind : PacketKind} {number : UInt32}
    (due : t.written? kind = some (number, t')) :
    ∃ early late, t.unsent = early ++ ⟨kind, number⟩ :: late ∧ (∀ u ∈ early, u.kind ≠ kind) ∧
      t' = { t with unsent := early ++ late } := by
  unfold written? at due
  obtain ⟨u, first, here⟩ := Option.bind_eq_some_iff.mp due
  obtain ⟨same, early, late, unsent, others⟩ := List.find?_eq_some_iff_append.mp first
  obtain ⟨rfl, rfl⟩ := Prod.mk.inj (Option.some.inj here)
  have kind_eq : u.kind = kind := by simpa using same
  have other (v : Unsent) (member : v ∈ early) : v.kind ≠ kind := by simpa using others v member
  apply Exists.intro early
  apply Exists.intro late
  refine ⟨by rw [unsent, ← kind_eq], other, ?_⟩
  rw [unsent, List.eraseP_append_right _ (by simpa using other),
    List.eraseP_cons_of_pos (by simpa using same)]

/-- The ways in which an act can come out: what is reported, and the tracker afterwards. -/
inductive Outcome (t : Tracker) : Act → List Event → Tracker → Prop where
  | expected (kind : PacketKind) (number : UInt32) :
    Outcome t (.expect kind number) [] (t.expect kind number)
  | withdrawn (number : UInt32) : Outcome t (.forget number) [] (t.forget number)
  /-- The connection ends. No request is reported. -/
  | ended {notification : Notification} {reports : List Event}
    (ends : endsConnection notification = true) (silent : reports.filterMap numberOf? = []) :
    Outcome t (.observe notification) reports {}
  | written {kind : PacketKind} {packet : UInt16} {number : UInt32} {rest : Tracker}
    (awaits : awaitsAck kind packet = true) (due : t.written? kind = some (number, rest)) :
    Outcome t (.observe (.ok (.sent kind packet))) [] (rest.record packet ⟨kind, number⟩)
  /-- A publish that expects no acknowledgment is written. -/
  | completed {number : UInt32} {rest : Tracker} (due : t.written? .publish = some (number, rest)) :
    Outcome t (.observe (.ok (.sent .publish 0))) [.puback number] rest
  /-- A packet is written that no request waits for. -/
  | unexpected {kind : PacketKind} {packet : UInt16} (idle : t.written? kind = none) :
    Outcome t (.observe (.ok (.sent kind packet))) [] t
  | acknowledged {event : WireEvent} {kind : PacketKind} {packet : UInt16}
    {report : UInt32 → Event} {number : UInt32}
    (meaning : event.acknowledges? = some (kind, packet, report))
    (found : (t.numbers kind).lookup packet = some number) :
    Outcome t (.observe (.ok event)) [report number] (t.release kind packet)
  /-- An acknowledgment arrives that no request waits for. -/
  | unknown {event : WireEvent} {kind : PacketKind} {packet : UInt16} {report : UInt32 → Event}
    (meaning : event.acknowledges? = some (kind, packet, report))
    (free : (t.numbers kind).lookup packet = none) :
    Outcome t (.observe (.ok event)) [] t
  /-- Something happens that has to do with no request. -/
  | aside {event : WireEvent} {reports : List Event} (open' : endsConnection (.ok event) = false)
    (unwritten : ∀ kind packet, event ≠ .sent kind packet)
    (meaning : event.acknowledges? = none) (silent : reports.filterMap numberOf? = []) :
    Outcome t (.observe (.ok event)) reports t

theorem Outcome.of_sent (t : Tracker) (kind : PacketKind) (packet : UInt16) :
    Outcome t (.observe (.ok (.sent kind packet))) (t.noteSent kind packet).1.toList
      (t.noteSent kind packet).2 := by
  unfold noteSent
  split
  next idle => exact .unexpected idle
  next number rest due =>
    split
    · split
      next zero =>
        subst zero
        exact .completed due
      next awaits => exact .written (by simp [awaitsAck, awaits]) due
    · exact .written (by simp [awaitsAck]) due
    · exact .written (by simp [awaitsAck]) due

theorem translate_of_acknowledges {event : WireEvent} {kind : PacketKind} {packet : UInt16}
    {report : UInt32 → Event} (meaning : event.acknowledges? = some (kind, packet, report))
    (t : Tracker) :
    t.translate event = match (t.numbers kind).lookup packet with
      | some number => (some (report number), t.release kind packet)
      | none => (none, t) := by
  unfold WireEvent.acknowledges? at meaning
  split at meaning <;> cases meaning <;> rfl

theorem Outcome.of_acknowledges {event : WireEvent} {kind : PacketKind} {packet : UInt16}
    {report : UInt32 → Event} (meaning : event.acknowledges? = some (kind, packet, report))
    (t : Tracker) :
    Outcome t (.observe (.ok event)) (t.translate event).1.toList (t.translate event).2 := by
  rw [translate_of_acknowledges meaning]
  split
  next number found => exact .acknowledged meaning found
  next free => exact .unknown meaning free

theorem outcome (t : Tracker) (act : Act) : Outcome t act (t.perform act).1 (t.perform act).2 := by
  cases act with
  | expect kind number => exact .expected kind number
  | forget number => exact .withdrawn number
  | observe notification =>
    cases notification with
    | error fault => cases fault <;> exact .ended rfl rfl
    | ok event =>
      cases event with
      | sent kind packet => exact .of_sent t kind packet
      | sentDisconnect | disconnect => exact .ended rfl rfl
      | puback packet | unsuback packet => exact .of_acknowledges rfl t
      | suback packet codes => exact .of_acknowledges rfl t
      | connack code => exact .aside rfl (by simp) rfl rfl
      | publish topic payload qos retain => exact .aside rfl (by simp) rfl rfl
      | other => exact .aside rfl (by simp) rfl rfl

/-! ### Every request is in one place -/

/-- A packet holds one request of its kind at most. -/
def IsPaired (t : Tracker) : Prop := ∀ kind, ((t.numbers kind).map Prod.fst).Nodup

theorem isPaired_empty : IsPaired {} := by
  intro kind
  cases kind <;> exact List.nodup_nil

theorem Outcome.isPaired (outcome : Outcome t act reports t') (paired : t.IsPaired) :
    t'.IsPaired := by
  intro k
  cases outcome with
  | expected | withdrawn | unexpected | unknown | aside => apply paired
  | ended => apply isPaired_empty
  | written awaits due =>
    obtain ⟨early, late, -, -, rfl⟩ := written?_eq_some due
    rw [numbers_record]
    split
    · apply Numbers.nodup_insert
      apply paired
    · apply paired
  | completed due =>
    obtain ⟨early, late, -, -, rfl⟩ := written?_eq_some due
    apply paired
  | acknowledged =>
    rw [numbers_release]
    split
    · apply Numbers.nodup_erase
      apply paired
    · apply paired

theorem count_outstanding (t : Tracker) (n : UInt32) :
    t.outstanding.count n =
      (t.unsent.map (·.number)).count n + (t.publishes.map Prod.snd).count n +
        (t.subscribes.map Prod.snd).count n + (t.unsubscribes.map Prod.snd).count n := by
  unfold outstanding
  rw [List.count_append, List.count_append, List.count_append]

theorem count_record {packet : UInt16} {request : Unsent}
    (free : (t.numbers request.kind).lookup packet = none) (n : UInt32) :
    (t.record packet request).outstanding.count n =
      t.outstanding.count n + [request.number].count n := by
  obtain ⟨kind, number⟩ := request
  rw [count_outstanding, count_outstanding]
  cases kind <;>
    simp only [record, numbers] at free ⊢ <;>
    rw [Numbers.insert_of_free free, List.map_cons, List.count_cons, List.count_singleton] <;>
    dsimp only <;>
    omega

theorem count_release {kind : PacketKind} {packet : UInt16} {number : UInt32} (paired : t.IsPaired)
    (found : (t.numbers kind).lookup packet = some number) (n : UInt32) :
    t.outstanding.count n = (t.release kind packet).outstanding.count n + [number].count n := by
  have count := Numbers.count_erase (paired kind) found n
  rw [count_outstanding, count_outstanding]
  cases kind <;> simp only [release, numbers] at count ⊢ <;> omega

theorem count_written {kind : PacketKind} {number : UInt32}
    (due : t.written? kind = some (number, t')) (n : UInt32) :
    t.outstanding.count n = t'.outstanding.count n + [number].count n := by
  obtain ⟨early, late, unsent, -, rfl⟩ := written?_eq_some due
  rw [count_outstanding, count_outstanding, unsent, List.map_append, List.map_append, List.map_cons,
    List.count_append, List.count_append, List.count_cons, List.count_singleton]
  dsimp only
  omega

theorem count_expect (t : Tracker) (kind : PacketKind) (number n : UInt32) :
    (t.expect kind number).outstanding.count n = t.outstanding.count n + [number].count n := by
  rw [count_outstanding, count_outstanding, expect, List.map_append, List.count_append,
    List.map_singleton]
  dsimp only
  omega

theorem count_forget (t : Tracker) (number n : UInt32) :
    t.outstanding.count n = (t.forget number).outstanding.count n +
      ((t.unsent.filter (·.number == number)).map (·.number)).count n := by
  have parted := ((List.filter_append_perm (·.number == number) t.unsent).map (·.number)).count_eq n
  rw [List.map_append, List.count_append] at parted
  rw [count_outstanding, count_outstanding, ← parted]
  dsimp only [forget, bne]
  omega

/-- What is expected comes to wait. What waits is acknowledged, is given up or waits on. -/
theorem Outcome.count (outcome : Outcome t act reports t') (paired : t.IsPaired)
    (free : t.isFree act = true) (n : UInt32) :
    t'.outstanding.count n + (reports.filterMap numberOf?).count n + (givenUpBy act t).count n =
      t.outstanding.count n + (act.expects?.toList.map (·.number)).count n := by
  cases outcome with
  | expected kind number => exact count_expect t kind number n
  | withdrawn number => exact (count_forget t number n).symm
  | ended ends silent =>
    rw [silent, givenUpBy, if_pos ends]
    apply Nat.zero_add
  | @written kind packet number rest awaits due =>
    obtain ⟨early, late, -, -, here⟩ := written?_eq_some due
    have vacant : (rest.numbers kind).lookup packet = none := by
      simpa [isFree, Act.writes?, awaits, here, numbers] using free
    rw [count_record vacant, count_written due]
    rfl
  | completed due => exact (count_written due n).symm
  | unexpected => rfl
  | acknowledged meaning found =>
    rw [count_release paired found, givenUpBy,
      if_neg (by simp [WireEvent.open_of_acknowledges meaning]),
      List.filterMap_cons_some (WireEvent.numberOf?_report meaning _)]
    rfl
  | unknown meaning =>
    rw [givenUpBy, if_neg (by simp [WireEvent.open_of_acknowledges meaning])]
    rfl
  | aside open' unwritten meaning silent =>
    rw [silent, givenUpBy, if_neg (by simp [open'])]
    rfl

theorem expectedAlong_cons (act : Act) (acts : List Act) :
    expectedAlong (act :: acts) = act.expects?.toList ++ expectedAlong acts := by
  unfold expectedAlong
  cases act <;> rfl

theorem count_run (paired : t.IsPaired) (free : isFreeAlong acts t = true) (n : UInt32) :
    (run acts t).outstanding.count n + (along acknowledgedBy acts t).count n +
        (along givenUpBy acts t).count n =
      t.outstanding.count n + ((expectedAlong acts).map (·.number)).count n := by
  induction acts generalizing t with
  | nil => rfl
  | cons act rest ih =>
    rw [isFreeAlong, Bool.and_eq_true] at free
    have step := (t.outcome act).count paired free.1 n
    have later := ih ((t.outcome act).isPaired paired) free.2
    rw [along, along, run, List.count_append, List.count_append, expectedAlong_cons,
      List.map_append, List.count_append, acknowledgedBy]
    omega

theorem perm_run (free : isFreeAlong acts {} = true) :
    ((run acts {}).outstanding ++ along acknowledgedBy acts {} ++ along givenUpBy acts {}).Perm
      ((expectedAlong acts).map (·.number)) := by
  apply List.perm_iff_count.mpr
  intro n
  rw [List.count_append, List.count_append, count_run isPaired_empty free]
  apply Nat.zero_add

/-! ### Requests are written in their order -/

theorem numbersOf_append (first second : List Unsent) (kind : PacketKind) :
    numbersOf kind (first ++ second) = numbersOf kind first ++ numbersOf kind second := by
  unfold numbersOf
  rw [List.filter_append, List.map_append]

theorem numbersOf_sublist {first second : List Unsent} (part : first.Sublist second)
    (kind : PacketKind) : (numbersOf kind first).Sublist (numbersOf kind second) :=
  (part.filter _).map _

theorem numbersOf_eq_nil {requests : List Unsent} {kind : PacketKind}
    (others : ∀ u ∈ requests, u.kind ≠ kind) : numbersOf kind requests = [] := by
  unfold numbersOf
  rw [List.filter_eq_nil_iff.mpr (by simpa using others), List.map_nil]

theorem numbersOf_written {kind : PacketKind} {number : UInt32}
    (due : t.written? kind = some (number, t')) (k : PacketKind) :
    numbersOf k t.unsent = (if k = kind then [number] else []) ++ numbersOf k t'.unsent := by
  obtain ⟨early, late, unsent, others, rfl⟩ := written?_eq_some due
  rw [unsent, List.append_cons, numbersOf_append, numbersOf_append, numbersOf_append]
  split
  next same =>
    subst same
    rw [numbersOf_eq_nil others]
    simp [numbersOf]
  next other => simp [numbersOf, Ne.symm other]

theorem numbersOf_of_idle {kind : PacketKind} (idle : t.written? kind = none) :
    numbersOf kind t.unsent = [] := by
  cases first : t.unsent.find? (·.kind == kind) with
  | none => exact numbersOf_eq_nil (by simpa using first)
  | some u => simp [written?, first] at idle

theorem writtenBy_of_due {kind : PacketKind} {number : UInt32}
    (due : t.written? kind = some (number, t')) (packet : UInt16) (k : PacketKind) :
    writtenBy k (.observe (.ok (.sent kind packet))) t = if k = kind then [number] else [] := by
  unfold writtenBy
  by_cases same : k = kind
  · simp [same, due]
  · simp [same, Ne.symm same]

theorem writtenBy_of_idle {kind : PacketKind} (idle : t.written? kind = none) (packet : UInt16)
    (k : PacketKind) : writtenBy k (.observe (.ok (.sent kind packet))) t = [] := by
  unfold writtenBy
  by_cases same : k = kind
  · simp [same, idle]
  · simp [Ne.symm same]

theorem ok_ne_sent {event : WireEvent} (other : ∀ kind packet, event ≠ .sent kind packet)
    (kind : PacketKind) (packet : UInt16) :
    (.ok event : Notification) ≠ .ok (.sent kind packet) :=
  fun here => other kind packet (Except.ok.inj here)

theorem ne_sent_of_ends {notification : Notification} (ends : endsConnection notification = true)
    (kind : PacketKind) (packet : UInt16) : notification ≠ .ok (.sent kind packet) := by
  rintro rfl
  cases ends

theorem writtenBy_eq_nil {notification : Notification}
    (other : ∀ kind packet, notification ≠ .ok (.sent kind packet)) (k : PacketKind)
    (t : Tracker) : writtenBy k (.observe notification) t = [] := by
  unfold writtenBy
  split
  next here =>
    cases here
    exact absurd rfl (other _ _)
  next => rfl

theorem writtenBy_sent (t : Tracker) (kind : PacketKind) (packet : UInt16) (k : PacketKind) :
    writtenBy k (.observe (.ok (.sent kind packet))) t =
      if k = kind then (numbersOf k t.unsent).take 1 else [] := by
  cases due : t.written? kind with
  | none =>
    rw [writtenBy_of_idle due]
    split
    next same => rw [same, numbersOf_of_idle due, List.take_nil]
    next => rfl
  | some found =>
    rw [writtenBy_of_due due]
    split
    next same => rw [numbersOf_written due, if_pos same]; rfl
    next => rfl

theorem Outcome.numbersOf_sent {kind : PacketKind} {packet : UInt16}
    (outcome : Outcome t (.observe (.ok (.sent kind packet))) reports t') (k : PacketKind) :
    writtenBy k (.observe (.ok (.sent kind packet))) t ++ numbersOf k t'.unsent =
      numbersOf k t.unsent := by
  cases outcome with
  | ended ends => cases ends
  | written awaits due => rw [writtenBy_of_due due, unsent_record, numbersOf_written due]
  | completed due => rw [writtenBy_of_due due, numbersOf_written due]
  | unexpected idle => rw [writtenBy_of_idle idle, List.nil_append]
  | acknowledged meaning => cases meaning
  | unknown meaning => cases meaning
  | aside open' unwritten => exact absurd rfl (unwritten kind packet)

theorem inOrder_of_unsent {notification : Notification}
    (other : ∀ kind packet, notification ≠ .ok (.sent kind packet))
    (part : t'.unsent.Sublist t.unsent) (kind : PacketKind) :
    (writtenBy kind (.observe notification) t ++ numbersOf kind t'.unsent).Sublist
      (numbersOf kind t.unsent ++ []) := by
  rw [writtenBy_eq_nil other, List.nil_append, List.append_nil]
  exact numbersOf_sublist part kind

/-- The line loses what is written at its head. It may lose more, and gains at its end. -/
theorem Outcome.inOrder (outcome : Outcome t act reports t') (kind : PacketKind) :
    (writtenBy kind act t ++ numbersOf kind t'.unsent).Sublist
      (numbersOf kind t.unsent ++ numbersOf kind act.expects?.toList) := by
  cases outcome with
  | expected k number =>
    rw [← numbersOf_append]
    apply List.Sublist.refl
  | withdrawn number =>
    apply (numbersOf_sublist List.filter_sublist kind).trans
    apply List.sublist_append_left
  | ended ends =>
    apply inOrder_of_unsent (ne_sent_of_ends ends)
    apply List.nil_sublist
  | written awaits due =>
    rw [(Outcome.written awaits due).numbersOf_sent]
    apply List.sublist_append_left
  | completed due =>
    rw [(Outcome.completed due).numbersOf_sent]
    apply List.sublist_append_left
  | unexpected idle =>
    rw [(Outcome.unexpected idle).numbersOf_sent]
    apply List.sublist_append_left
  | acknowledged meaning =>
    apply inOrder_of_unsent (ok_ne_sent (WireEvent.ne_sent_of_acknowledges meaning))
    rw [unsent_release]
  | unknown meaning =>
    apply inOrder_of_unsent (ok_ne_sent (WireEvent.ne_sent_of_acknowledges meaning))
    apply List.Sublist.refl
  | aside open' unwritten =>
    apply inOrder_of_unsent (ok_ne_sent unwritten)
    apply List.Sublist.refl

theorem inOrder_run (acts : List Act) (t : Tracker) (kind : PacketKind) :
    (along (writtenBy kind) acts t ++ numbersOf kind (run acts t).unsent).Sublist
      (numbersOf kind t.unsent ++ numbersOf kind (expectedAlong acts)) := by
  induction acts generalizing t with
  | nil => apply List.sublist_append_left
  | cons act rest ih =>
    have step := (t.outcome act).inOrder kind
    rw [along, run, expectedAlong_cons, numbersOf_append, ← List.append_assoc, List.append_assoc]
    have later := (ih (t.perform act).2).append_left (writtenBy kind act t)
    apply later.trans
    rw [← List.append_assoc]
    exact step.append_right _

end Tracker

end DurableMqtt.Network
