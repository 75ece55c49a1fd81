import Mathlib
import DurableMqtt.Network.Client
import DurableMqtt.Proofs.Pending

/-!
The order in which requests are issued, and the order in which the table gives them back, which is
that of their numbers.

The numbers count up from 1 and start over after 2^32 - 1 of them. So the two orders are the same as
long as the requests that remain were issued in one such turn. The requests of an older turn come
after those of a newer one, and a request that remains for a whole turn gives its place in the table
to the next one of its number.
-/

namespace DurableMqtt.Network

/-! ### The counter -/

/-- Numbers start over after so many, since zero is none. -/
def period : Nat := 4294967295

theorem toNat_le_period (n : UInt32) : n.toNat ≤ period := by
  have bound := n.toNat_lt
  unfold period
  omega

theorem toNat_nextNumber (n : UInt32) :
    (nextNumber n < n ∧ n.toNat = period ∧ (nextNumber n).toNat = 1) ∨
      (¬nextNumber n < n ∧ (nextNumber n).toNat = n.toNat + 1) := by
  have bound := n.toNat_lt
  have one : UInt32.toNat 1 = 1 := rfl
  have step : (n + 1).toNat = (n.toNat + 1) % 2 ^ 32 := UInt32.toNat_add n 1
  have zero : n + 1 = 0 ↔ (n + 1).toNat = 0 := UInt32.toNat_inj.symm
  rw [UInt32.lt_iff_toNat_lt]
  unfold nextNumber period
  by_cases full : n + 1 = 0
  · rw [if_pos full, one]
    have := zero.mp full
    omega
  · rw [if_neg full, step]
    have := mt zero.mpr full
    omega

theorem nextNumber_pos (n : UInt32) : 0 < (nextNumber n).toNat := by
  rcases toNat_nextNumber n with ⟨-, -, first⟩ | ⟨-, next⟩ <;> omega

inductive Numbered (c : Client) : Except EngineError RequestId → Client → Prop
  /-- CONNECT and DISCONNECT have no number, and neither has what is refused. -/
  | unnumbered {sent : Except EngineError RequestId} {c' : Client}
      (same : c'.lastNumber = c.lastNumber) (plain : ∀ number, sent ≠ .ok (.packet number)) :
      Numbered c sent c'
  /-- The line was full. -/
  | spent {fault : EngineError} {c' : Client} (next : c'.lastNumber = nextNumber c.lastNumber) :
      Numbered c (.error fault) c'
  | given {c' : Client} (next : c'.lastNumber = nextNumber c.lastNumber) :
      Numbered c (.ok (.packet (nextNumber c.lastNumber))) c'

namespace Client

def sent (c : Client) (call : EngineCall) : Except EngineError RequestId :=
  (c.call call).1.map fun number => call.id number

theorem send_numbered (c : Client) (call : EngineCall) (kind : PacketKind)
    (request : ∀ number, call.id number = .packet number) :
    Numbered c ((c.send call kind).1.map fun number => call.id number) (c.send call kind).2 := by
  unfold send
  cases c.connection with
  | none => exact .unnumbered rfl fun number taken => by cases taken
  | some connection =>
    dsimp only
    split
    next room =>
      rw [Except.map, request]
      exact .given rfl
    next full => exact .spent rfl

theorem unnumbered_of_id {c c' : Client} {call : EngineCall} (answer : Except EngineError UInt32)
    (same : c'.lastNumber = c.lastNumber) (plain : ∀ m n, call.id m ≠ .packet n) :
    Numbered c (answer.map fun number => call.id number) c' := by
  refine .unnumbered same fun number taken => ?_
  cases answer with
  | error fault => cases taken
  | ok m => exact plain m number (Except.ok.inj taken)

theorem lastNumber_connect (c : Client) (keepAlive : Duration) :
    (c.connect keepAlive).2.lastNumber = c.lastNumber := by
  unfold Client.connect stop
  split
  · rfl
  · split <;> rfl

theorem lastNumber_disconnect (c : Client) : c.disconnect.2.lastNumber = c.lastNumber := by
  unfold Client.disconnect
  split
  · rfl
  · split <;> rfl

theorem call_numbered (c : Client) (call : EngineCall) :
    Numbered c (c.sent call) (c.call call).2 := by
  unfold sent Client.call
  split
  next writable =>
    cases call with
    | connect keepAlive =>
      exact unnumbered_of_id _ (c.lastNumber_connect keepAlive) fun _ _ => RequestId.noConfusion
    | disconnect =>
      exact unnumbered_of_id _ c.lastNumber_disconnect fun _ _ => RequestId.noConfusion
    | publish topic payload qos retain => exact c.send_numbered _ _ fun _ => rfl
    | subscribe topic qos => exact c.send_numbered _ _ fun _ => rfl
    | unsubscribe topic => exact c.send_numbered _ _ fun _ => rfl
  next unwritable => exact .unnumbered rfl fun number taken => by cases taken

end Client

/-! ### Requests and their numbers -/

/-- A request that was given a number, and how often the numbers had started over by then. -/
structure Issue where
  number : UInt32
  entry : PendingEntry
  turn : Nat
deriving DecidableEq

namespace Issue

def request (issue : Issue) : UInt32 × PendingEntry := (issue.number, issue.entry)

/-- How many numbers there were up to this one. -/
def place (issue : Issue) : Nat := issue.turn * period + issue.number.toNat

end Issue

def newest? (issues : List Issue) (number : UInt32) : Option Issue :=
  issues.reverse.find? (·.number == number)

theorem newest?_concat (issues : List Issue) (last : Issue) (number : UInt32) :
    newest? (issues ++ [last]) number =
      if last.number = number then some last else newest? issues number := by
  unfold newest?
  rw [List.reverse_append, List.reverse_singleton, List.singleton_append]
  by_cases here : last.number = number
  · rw [List.find?_cons_of_pos (by simpa using here), if_pos here]
  · rw [List.find?_cons_of_neg (by simpa using here), if_neg here]

theorem newest?_filter (issues : List Issue) (id : RequestId) (number : UInt32) :
    newest? (issues.filter fun issue => RequestId.packet issue.number != id) number =
      if .packet number = id then none else newest? issues number := by
  unfold newest?
  rw [← List.filter_reverse]
  split
  next same =>
    refine List.find?_eq_none.mpr fun issue member => ?_
    have other := bne_iff_ne.mp (List.mem_filter.mp member).2
    rw [beq_iff_eq]
    rintro rfl
    exact other same
  next apart =>
    refine PendingTable.find?_filter_of_imp fun issue here => ?_
    rw [beq_iff_eq.mp here]
    exact bne_iff_ne.mpr apart

theorem newest?_eq_some_iff {issues : List Issue} (distinct : (issues.map Issue.number).Nodup)
    {number : UInt32} {issue : Issue} :
    newest? issues number = some issue ↔ issue ∈ issues ∧ issue.number = number := by
  rw [← List.nodup_reverse, ← List.map_reverse] at distinct
  rw [newest?, PendingTable.find?_key_eq_some_iff distinct, List.mem_reverse]

/-- A client, the table of what it was asked for, and the requests that are neither acknowledged nor
taken back. -/
structure Traffic where
  client : Client
  table : PendingTable := {}
  /-- How often the numbers have started over. -/
  turns : Nat := 0
  /-- In the order in which they were issued. -/
  unsettled : List Issue := []

namespace Traffic

inductive Act where
  /-- A call, and what is kept of it if the client takes it. -/
  | call (call : EngineCall) (entry : PendingEntry)
  | acknowledge (id : RequestId)
  /-- The session is lost, and all requests in flight are taken back. -/
  | lose
  /-- The connection gets on with its work, or gives way to another. -/
  | proceed (connection : Option Connection)

/-- How often the numbers have started over when `number` is the last one. -/
def turnAt (t : Traffic) (number : UInt32) : Nat :=
  if number < t.client.lastNumber then t.turns + 1 else t.turns

def after (t : Traffic) : Act → Traffic
  | .call call entry =>
    let sent := t.client.sent call
    let client := (t.client.call call).2
    let turns := t.turnAt client.lastNumber
    { client, turns
      table := (t.table.register entry sent).2
      unsettled := match sent with
        | .ok (.packet number) => t.unsettled ++ [⟨number, entry, turns⟩]
        | _ => t.unsettled }
  | .acknowledge id =>
    { t with
      table := t.table.erase id
      unsettled := t.unsettled.filter fun issue => RequestId.packet issue.number != id }
  | .lose => { t with table := t.table.withoutPackets, unsettled := [] }
  | .proceed connection => { t with client := { t.client with connection } }

def run (acts : List Act) (t : Traffic) : Traffic := acts.foldl after t

/-- How many numbers there were so far. -/
def place (t : Traffic) : Nat := t.turns * period + t.client.lastNumber.toNat

variable {t : Traffic}

theorem turnAt_same : t.turnAt t.client.lastNumber = t.turns := if_neg (UInt32.lt_irrefl _)

theorem place_next (t : Traffic) :
    t.turnAt (nextNumber t.client.lastNumber) * period + (nextNumber t.client.lastNumber).toNat =
      t.place + 1 := by
  unfold place turnAt
  obtain ⟨restarts, full, first⟩ | ⟨goesOn, next⟩ := toNat_nextNumber t.client.lastNumber
  · rw [if_pos restarts, full, first, Nat.succ_mul]
  · rw [if_neg goesOn, next, Nat.add_assoc]

structure Tracked (t : Traffic) : Prop where
  distinct : (t.table.entries.map Prod.fst).Nodup
  newest : ∀ number,
    t.table.find? (.packet number) = (newest? t.unsettled number).map Issue.entry
  ascending : t.unsettled.Pairwise fun a b => a.place < b.place
  given : ∀ issue ∈ t.unsettled, 0 < issue.number.toNat ∧ issue.place ≤ t.place

theorem Tracked.start (c : Client) : Tracked { client := c } where
  distinct := List.nodup_nil
  newest := fun _ => rfl
  ascending := List.Pairwise.nil
  given := fun _ member => absurd member List.not_mem_nil

theorem Tracked.register (tracked : Tracked t) {sent : Except EngineError RequestId}
    (plain : ∀ number, sent ≠ .ok (.packet number)) (entry : PendingEntry) {client : Client}
    {turns : Nat} (place : t.place ≤ turns * period + client.lastNumber.toNat) :
    Tracked ⟨client, (t.table.register entry sent).2, turns, t.unsettled⟩ := by
  have given (issue : Issue) (member : issue ∈ t.unsettled) :=
    And.imp_right place.trans' (tracked.given issue member)
  cases sent with
  | error fault => exact ⟨tracked.distinct, tracked.newest, tracked.ascending, given⟩
  | ok id =>
    refine ⟨PendingTable.nodup_insert tracked.distinct id entry, fun number => ?_,
      tracked.ascending, given⟩
    have apart : .packet number ≠ id := fun same => plain number (congrArg Except.ok same.symm)
    exact (PendingTable.find?_insert_of_ne apart entry).trans (tracked.newest number)

theorem Tracked.issue (tracked : Tracked t) (entry : PendingEntry) {client : Client}
    (next : client.lastNumber = nextNumber t.client.lastNumber) :
    Tracked
      { client
        table := t.table.insert (.packet client.lastNumber) entry
        turns := t.turnAt client.lastNumber
        unsettled := t.unsettled ++ [⟨client.lastNumber, entry, t.turnAt client.lastNumber⟩] } := by
  have place : t.turnAt client.lastNumber * period + client.lastNumber.toNat = t.place + 1 := by
    rw [next]
    exact t.place_next
  constructor
  case distinct => exact PendingTable.nodup_insert tracked.distinct _ _
  case newest =>
    intro number
    rw [newest?_concat]
    by_cases same : client.lastNumber = number
    · rw [if_pos same, same, PendingTable.find?_insert_self]
      rfl
    · have apart : RequestId.packet number ≠ .packet client.lastNumber :=
        fun equal => same (RequestId.packet.inj equal).symm
      rw [if_neg same, PendingTable.find?_insert_of_ne apart]
      exact tracked.newest number
  case ascending =>
    refine List.pairwise_append.mpr ⟨tracked.ascending, List.pairwise_singleton _ _, ?_⟩
    intro issue member last single
    rw [List.mem_singleton.mp single]
    exact (Nat.lt_succ_of_le (tracked.given issue member).2).trans_eq place.symm
  case given =>
    intro issue member
    rcases List.mem_append.mp member with old | new
    · obtain ⟨pos, le⟩ := tracked.given issue old
      exact ⟨pos, (Nat.le_succ_of_le le).trans_eq place.symm⟩
    · rw [List.mem_singleton.mp new]
      refine ⟨?_, le_rfl⟩
      rw [next]
      exact nextNumber_pos _

theorem Tracked.after (tracked : Tracked t) (act : Act) : Tracked (t.after act) := by
  cases act with
  | call call entry =>
    have numbered := t.client.call_numbered call
    unfold Traffic.after
    dsimp only
    generalize t.client.sent call = sent at *
    generalize (t.client.call call).2 = client at *
    cases numbered with
    | unnumbered same plain =>
      have kept : Tracked ⟨client, (t.table.register entry sent).2, t.turns, t.unsettled⟩ := by
        refine tracked.register plain entry ?_
        rw [same]
        exact le_rfl
      rw [same, turnAt_same]
      split
      next _ number => exact absurd rfl (plain number)
      next => exact kept
    | @spent fault _ next =>
      have refused : ∀ number, Except.error fault ≠ Except.ok (RequestId.packet number) :=
        fun number taken => by cases taken
      refine tracked.register refused entry ?_
      rw [next, place_next]
      exact Nat.le_succ _
    | given next =>
      rw [← next]
      exact tracked.issue entry next
  | acknowledge id =>
    constructor
    case distinct => exact PendingTable.nodup_filter tracked.distinct _
    case newest =>
      intro number
      have left := tracked.newest number
      dsimp only [Traffic.after]
      rw [newest?_filter]
      split
      next same =>
        rw [same, PendingTable.find?_erase_self]
        rfl
      next apart =>
        rw [PendingTable.find?_erase_of_ne apart]
        exact left
    case ascending => exact tracked.ascending.filter _
    case given => exact fun issue member => tracked.given issue (List.mem_of_mem_filter member)
  | lose =>
    constructor
    case distinct => exact PendingTable.nodup_filter tracked.distinct _
    case newest =>
      intro number
      exact PendingTable.find?_packet_withoutPackets t.table number
    case ascending => exact List.Pairwise.nil
    case given => exact fun issue member => absurd member List.not_mem_nil
  | proceed connection => exact ⟨tracked.distinct, tracked.newest, tracked.ascending, tracked.given⟩

theorem tracked_run (c : Client) (acts : List Act) : Tracked (run acts { client := c }) := by
  induction acts using List.reverseRecOn with
  | nil => exact .start c
  | append_singleton acts act ih =>
    rw [run, List.foldl_append]
    exact ih.after act

/-! ### The order of what is in flight -/

theorem Tracked.mem_inFlight_iff (tracked : Tracked t) {number : UInt32} {entry : PendingEntry} :
    (number, entry) ∈ t.table.inFlight ↔
      (newest? t.unsettled number).map Issue.entry = some entry := by
  rw [PendingTable.mem_inFlight, ← PendingTable.find?_eq_some_iff tracked.distinct, tracked.newest]

theorem Tracked.inFlight_eq (tracked : Tracked t) {issues : List Issue}
    (ascending : issues.Pairwise fun a b => a.number < b.number)
    (all : issues.Perm t.unsettled) : t.table.inFlight = issues.map Issue.request := by
  have once : (t.unsettled.map Issue.number).Nodup := by
    refine (all.map Issue.number).nodup_iff.mp (List.pairwise_map.mpr ?_)
    exact ascending.imp UInt32.ne_of_lt
  have ascending : (issues.map Issue.request).Pairwise fun a b => a.1 < b.1 :=
    List.pairwise_map.mpr ascending
  have inFlight := PendingTable.inFlight_ascending tracked.distinct
  have apart {a b : UInt32 × PendingEntry} (lt : a.1 < b.1) : a ≠ b := by
    rintro rfl
    exact UInt32.lt_irrefl _ lt
  refine PendingTable.inFlight_eq tracked.distinct ascending
    (List.Perm.trans ?_ (PendingTable.inFlight_perm t.table))
  refine (List.perm_ext_iff_of_nodup (ascending.imp apart) (inFlight.imp apart)).mpr ?_
  rintro ⟨number, entry⟩
  rw [tracked.mem_inFlight_iff, Option.map_eq_some_iff, List.mem_map]
  refine exists_congr fun issue => ?_
  rw [newest?_eq_some_iff once, all.mem_iff, Issue.request, Prod.mk.injEq, and_assoc]

theorem number_lt_of_place_lt {a b : Issue} (turn : a.turn = b.turn) (lt : a.place < b.place) :
    a.number < b.number := by
  unfold Issue.place at lt
  rw [turn] at lt
  exact UInt32.lt_iff_toNat_lt.mpr (by omega)

theorem Tracked.issue_order_iff (tracked : Tracked t) :
    t.table.inFlight = t.unsettled.map Issue.request ↔
      t.unsettled.Pairwise fun a b => a.turn = b.turn ∨ a.number < b.number := by
  constructor
  · intro same
    have ascending := PendingTable.inFlight_ascending tracked.distinct
    rw [same] at ascending
    exact (List.pairwise_map.mp ascending).imp .inr
  · intro agree
    refine tracked.inFlight_eq ((tracked.ascending.and agree).imp ?_) (.refl _)
    rintro a b ⟨lt, turn | number⟩
    · exact number_lt_of_place_lt turn lt
    · exact number

/-- Since the request, a whole turn of numbers has not passed. -/
def IsRecent (t : Traffic) (issue : Issue) : Prop := t.place < issue.place + period

instance (t : Traffic) (issue : Issue) : Decidable (t.IsRecent issue) :=
  inferInstanceAs (Decidable (t.place < issue.place + period))

/-- A recent request was issued in this turn or in the one before. -/
theorem Tracked.turn_of_recent (tracked : Tracked t) {issue : Issue} (member : issue ∈ t.unsettled)
    (recent : t.IsRecent issue) : issue.turn = t.turns ∨ issue.turn + 1 = t.turns := by
  obtain ⟨pos, le⟩ := tracked.given issue member
  have numbers := toNat_le_period issue.number
  have last := toNat_le_period t.client.lastNumber
  unfold IsRecent at recent
  unfold Issue.place place period at *
  omega

theorem Tracked.number_lt_of_turn (tracked : Tracked t) {older newer : Issue}
    (recent : t.IsRecent older) (before : older.turn + 1 = t.turns) (member : newer ∈ t.unsettled)
    (turn : newer.turn = t.turns) : newer.number < older.number := by
  have le := (tracked.given newer member).2
  refine UInt32.lt_iff_toNat_lt.mpr ?_
  unfold IsRecent at recent
  unfold Issue.place place period at *
  omega

def thisTurnFirst (t : Traffic) : List Issue :=
  t.unsettled.filter (·.turn == t.turns) ++ t.unsettled.filter (·.turn != t.turns)

theorem Tracked.thisTurnFirst_ascending (tracked : Tracked t)
    (recent : ∀ issue ∈ t.unsettled, t.IsRecent issue) :
    t.thisTurnFirst.Pairwise fun a b => a.number < b.number := by
  have older {issue : Issue} (member : issue ∈ t.unsettled.filter (·.turn != t.turns)) :
      issue ∈ t.unsettled ∧ issue.turn + 1 = t.turns := by
    obtain ⟨member, other⟩ := List.mem_filter.mp member
    exact ⟨member, (tracked.turn_of_recent member (recent issue member)).resolve_left
      (by simpa using other)⟩
  refine List.pairwise_append.mpr ⟨?_, ?_, ?_⟩
  · refine (tracked.ascending.filter _).imp_of_mem fun first second lt => ?_
    have first := (List.mem_filter.mp first).2
    have second := (List.mem_filter.mp second).2
    exact number_lt_of_place_lt ((beq_iff_eq.mp first).trans (beq_iff_eq.mp second).symm) lt
  · refine (tracked.ascending.filter _).imp_of_mem fun first second lt => ?_
    exact number_lt_of_place_lt
      (Nat.succ.inj ((older first).2.trans (older second).2.symm)) lt
  · intro newer first issue second
    obtain ⟨member, turn⟩ := List.mem_filter.mp first
    obtain ⟨stands, before⟩ := older second
    exact tracked.number_lt_of_turn (recent issue stands) before member (beq_iff_eq.mp turn)

theorem thisTurnFirst_perm (t : Traffic) : t.thisTurnFirst.Perm t.unsettled :=
  List.filter_append_perm _ _

theorem Tracked.turn_le_of_place_lt (tracked : Tracked t) {a b : Issue} (member : a ∈ t.unsettled)
    (lt : a.place < b.place) : a.turn ≤ b.turn := by
  have pos := (tracked.given a member).1
  have bound := toNat_le_period b.number
  unfold Issue.place period at *
  omega

/-- Without a whole turn between, the orders differ wherever the numbers have started over. -/
theorem Tracked.agree_iff_same_turn (tracked : Tracked t)
    (recent : ∀ issue ∈ t.unsettled, t.IsRecent issue) :
    (t.unsettled.Pairwise fun a b => a.turn = b.turn ∨ a.number < b.number) ↔
      t.unsettled.Pairwise fun a b => a.turn = b.turn := by
  refine ⟨fun agree => ?_, fun same => same.imp .inl⟩
  refine (tracked.ascending.and agree).imp_of_mem fun {a b} first second ⟨lt, agree⟩ => ?_
  rcases agree with turn | number
  · exact turn
  · by_contra apart
    have le := tracked.turn_le_of_place_lt first lt
    have turns := tracked.turn_of_recent first (recent a first)
    have later := tracked.turn_of_recent second (recent b second)
    have back := tracked.number_lt_of_turn (recent a first) (by omega) second (by omega)
    exact UInt32.lt_asymm number back

/-- Whatever the client was asked for and whatever has been acknowledged, in flight is the last
remaining request of each number, lowest number first. These are all that remain, in the order in
which they were issued, just if of any two between which the numbers started over the later one has
the higher number. As long as no request remains for a whole turn of numbers, each one that remains
is in flight once, and those of this turn come before the older ones, so the order is that of issue
just if they are all of one turn. Taking them back leaves the rest of the table. -/
theorem inFlight_issued_iff (c : Client) (acts : List Act) :
    let t := run acts { client := c }
    (∀ number entry, (number, entry) ∈ t.table.inFlight ↔
      (newest? t.unsettled number).map Issue.entry = some entry) ∧
    t.table.inFlight.Pairwise (fun a b => a.1 < b.1) ∧
    (t.table.inFlight = t.unsettled.map Issue.request ↔
      t.unsettled.Pairwise fun a b => a.turn = b.turn ∨ a.number < b.number) ∧
    ((∀ issue ∈ t.unsettled, t.IsRecent issue) →
      t.table.inFlight = t.thisTurnFirst.map Issue.request ∧
      t.table.inFlight.Perm (t.unsettled.map Issue.request) ∧
      (t.table.inFlight = t.unsettled.map Issue.request ↔
        t.unsettled.Pairwise fun a b => a.turn = b.turn)) ∧
    t.table.withoutPackets.inFlight = [] ∧
    ∀ id, (∀ number, id ≠ .packet number) →
      t.table.withoutPackets.find? id = t.table.find? id := by
  intro t
  have tracked : Tracked t := tracked_run c acts
  refine ⟨fun _ _ => tracked.mem_inFlight_iff, PendingTable.inFlight_ascending tracked.distinct,
    tracked.issue_order_iff, fun recent => ?_, PendingTable.inFlight_withoutPackets, fun id other =>
    PendingTable.find?_withoutPackets (PendingTable.asPacket?_of_other other)⟩
  have sorted := tracked.inFlight_eq (tracked.thisTurnFirst_ascending recent) t.thisTurnFirst_perm
  refine ⟨sorted, ?_, tracked.issue_order_iff.trans (tracked.agree_iff_same_turn recent)⟩
  rw [sorted]
  exact t.thisTurnFirst_perm.map Issue.request

def lateClient : Client :=
  { Client.ofOptions default 10 with
    bound := true
    connection := some {}
    lastNumber := 4294967293 }

/-- Three requests beside a CONNECT, the first of them acknowledged. -/
def lateActs : List Act :=
  [.call (.connect (.ofSeconds 30)) {},
   .call (.publish "a" ⟨#[]⟩ .atLeastOnce false) {},
   .call (.publish "b" ⟨#[]⟩ .atLeastOnce false) {},
   .call (.subscribe "c" .atLeastOnce) { resubscribe := true },
   .acknowledge (.packet 4294967294)]

theorem lateActs_reordered :
    let t := run lateActs { client := lateClient }
    t.unsettled = [⟨4294967295, {}, 0⟩, ⟨1, { resubscribe := true }, 1⟩] ∧
      (∀ issue ∈ t.unsettled, t.IsRecent issue) ∧
      t.table.inFlight = [(1, { resubscribe := true }), (4294967295, {})] ∧
      t.table.withoutPackets.find? .connect = some {} := by
  intro t
  have unsettled : t.unsettled = [⟨4294967295, {}, 0⟩, ⟨1, { resubscribe := true }, 1⟩] := by
    decide +kernel
  have recent : ∀ issue ∈ t.unsettled, t.IsRecent issue := by decide +kernel
  obtain ⟨-, -, -, once, -, others⟩ := inFlight_issued_iff lateClient lateActs
  refine ⟨unsettled, recent, ?_, ?_⟩
  · rw [(once recent).1]
    decide +kernel
  · rw [others .connect fun _ => RequestId.noConfusion]
    decide +kernel

/-- Both requests are taken and none is acknowledged, and the one that was issued first comes
last. -/
theorem overtaken_reordered :
    let t := run
      [.call (.publish "first" ⟨#[]⟩ .atLeastOnce false) {},
       .call (.publish "second" ⟨#[]⟩ .atLeastOnce false) {}]
      { client := { lateClient with lastNumber := 4294967294 } }
    t.unsettled.map Issue.request = [(4294967295, {}), (1, {})] ∧
      t.table.inFlight = [(1, {}), (4294967295, {})] ∧
      t.table.inFlight ≠ t.unsettled.map Issue.request := by
  intro t
  have tracked : Tracked t := tracked_run _ _
  have issued : t.unsettled.map Issue.request = [(4294967295, {}), (1, {})] := by decide +kernel
  have inFlight : t.table.inFlight = [(1, {}), (4294967295, {})] := by
    have recent : ∀ issue ∈ t.unsettled, t.IsRecent issue := by decide +kernel
    rw [tracked.inFlight_eq (tracked.thisTurnFirst_ascending recent) t.thisTurnFirst_perm]
    decide +kernel
  refine ⟨issued, inFlight, ?_⟩
  rw [issued, inFlight]
  decide

end Traffic

end DurableMqtt.Network
