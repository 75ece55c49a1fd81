import Mathlib
import DurableMqtt.Proofs.Network.Expecting

/-!
Numbers that are in flight are not given again.

The counter steps over zero, so it comes back to a number after 2^32 - 1 others and not before. A
request is in flight as long as the table keeps an entry under its number or its connection expects
it. A new request has a number of its own unless a whole turn of the counter was given while an
older one was in flight, and a request that finds no room then leaves everything but the counter as
it was.
-/

namespace DurableMqtt.Network

/-! ### Counting -/

/-- What the counter comes to when it goes up until it is not zero. There is no result if that takes
more increments than are allowed. -/
def draw : Nat → UInt32 → Option UInt32
  | 0, _ => none
  | allowed + 1, n => if n + 1 = 0 then draw allowed (n + 1) else some (n + 1)

theorem draw_eq (n : UInt32) (allowed : Nat) : draw (allowed + 2) n = some (nextNumber n) := by
  unfold nextNumber
  rw [draw]
  by_cases full : n + 1 = 0
  · rw [if_pos full, if_pos full, full]
    rfl
  · rw [if_neg full, if_neg full]

theorem nextNumber_ne_zero (n : UInt32) : nextNumber n ≠ 0 := by
  intro zero
  have pos := nextNumber_pos n
  rw [zero] at pos
  exact Nat.lt_irrefl 0 pos

def numbersAfter (n : UInt32) (count : Nat) : List UInt32 :=
  List.iterate nextNumber (nextNumber n) count

theorem toNat_iterate (n : UInt32) (i : Nat) :
    (nextNumber^[i] (nextNumber n)).toNat = (n.toNat + i) % period + 1 := by
  -- The remainder starts over where the counter does. It is one short of the number, so that zero,
  -- which is no number, counts like the last one.
  induction i with
  | zero =>
    rw [Function.iterate_zero_apply]
    have bound := toNat_le_period (nextNumber n)
    rcases toNat_nextNumber n with ⟨-, full, first⟩ | ⟨-, next⟩ <;> unfold period at * <;> omega
  | succ i ih =>
    rw [Function.iterate_succ_apply']
    generalize nextNumber^[i] (nextNumber n) = m at ih ⊢
    have bound := toNat_le_period (nextNumber m)
    rcases toNat_nextNumber m with ⟨-, full, first⟩ | ⟨-, next⟩ <;> unfold period at * <;> omega

theorem iterate_eq_iff (n : UInt32) (i j : Nat) :
    nextNumber^[i] (nextNumber n) = nextNumber^[j] (nextNumber n) ↔ i ≡ j [MOD period] := by
  rw [← UInt32.toNat_inj, toNat_iterate, toNat_iterate, Nat.add_left_inj]
  exact ⟨Nat.ModEq.add_left_cancel' n.toNat, Nat.ModEq.add_left n.toNat⟩

theorem nodup_numbersAfter_iff (n : UInt32) (count : Nat) :
    (numbersAfter n count).Nodup ↔ count ≤ period := by
  unfold numbersAfter
  rw [← List.range_map_iterate, List.nodup_map_iff_inj_on List.nodup_range]
  simp only [List.mem_range, iterate_eq_iff]
  constructor
  · intro distinct
    by_contra more
    have turn : 0 ≡ period [MOD period] := (Nat.mod_self period).symm
    have same := distinct 0 (by omega) period (by omega) turn
    exact absurd same (by decide)
  · intro few i first j second same
    exact same.eq_of_lt_of_lt (first.trans_le few) (second.trans_le few)

/-! ### Requests in flight -/

structure Exchange where
  client : Client
  table : PendingTable := {}

namespace Exchange

/-- A new client whose counter stands at `start`, before anything was asked of it. -/
def opened (options : Options) (capacity : Nat) (start : UInt32) : Exchange :=
  { client := { Client.ofOptions options capacity with lastNumber := start } }

inductive Act where
  /-- A call, and what is kept of it if the client takes it. -/
  | request (call : EngineCall) (entry : PendingEntry)
  /-- Something else that is done with the client or by its tasks. Nothing is kept of a call. -/
  | proceed (act : Client.Act)
  /-- The calls at the head of the line are written. -/
  | write (count : Nat)
  /-- An entry is taken out. -/
  | settle (id : RequestId)
  /-- A disconnect is kept that needs no client. -/
  | finish (entry : PendingEntry)
  /-- The session is lost, and all requests in flight are taken back. -/
  | lose
  | clear

def Act.call? : Act → Option EngineCall
  | request call _ | proceed (.call call) => some call
  | _ => none

def perform (x : Exchange) : Act → Exchange
  | .request call entry =>
    { client := (x.client.call call).2
      table := (x.table.register entry (x.client.sent call)).2 }
  | .proceed act => { x with client := (x.client.perform act).2 }
  | .write count =>
    { x with
      client := { x.client with
        connection := x.client.connection.map fun connection =>
          { connection with line := connection.line.drop count } } }
  | .settle id => { x with table := x.table.erase id }
  | .finish entry => { x with table := x.table.insert .disconnect entry }
  | .lose => { x with table := x.table.withoutPackets }
  | .clear => { x with table := {} }

def run : List Act → Exchange → Exchange
  | [], x => x
  | act :: rest, x => run rest (x.perform act)

/-- The number that an act uses up, whether or not there is room for the request. -/
def number? (x : Exchange) (act : Act) : Option UInt32 :=
  act.call?.bind fun call =>
    if x.client.isNumbered call then some (nextNumber x.client.lastNumber) else none

def given : List Act → Exchange → List UInt32
  | [], _ => []
  | act :: rest, x => (x.number? act).toList ++ given rest (x.perform act)

def taken? (x : Exchange) (act : Act) : Option UInt32 :=
  act.call?.bind fun call =>
    match x.client.sent call with
    | .ok (.packet number) => some number
    | _ => none

/-- The table keeps a request under the number, or the connection at hand expects one. -/
def InFlight (x : Exchange) (number : UInt32) : Prop :=
  (x.table.find? (.packet number)).isSome ∨ number ∈ x.client.outstanding

instance (x : Exchange) (number : UInt32) : Decidable (x.InFlight number) :=
  inferInstanceAs (Decidable (_ ∨ _))

/-- A request was taken under the number and has been in flight since, and so many more numbers were
given meanwhile. -/
def HeldFor (acts : List Act) (x : Exchange) (number : UInt32) (count : Nat) : Prop :=
  ∃ before act later, acts = before ++ act :: later ∧ (run before x).taken? act = some number ∧
    (∀ first, first <+: later → (run (before ++ act :: first) x).InFlight number) ∧
    (given later (run (before ++ [act]) x)).length = count

variable {x : Exchange} {acts : List Act} {act : Act} {number : UInt32}

/-! ### One act -/

theorem client_of_call {call : EngineCall} (calls : act.call? = some call) :
    (x.perform act).client = (x.client.call call).2 := by
  cases act with
  | request other entry =>
    cases calls
    rfl
  | proceed act =>
    cases act with
    | call other =>
      cases calls
      rfl
    | _ => cases calls
  | _ => cases calls

theorem idles_of_silent (silent : act.call? = none) :
    x.client.Idles (x.perform act).client := by
  cases act with
  | request other entry => cases silent
  | proceed act =>
    cases act with
    | call other => cases silent
    | bind => exact ⟨rfl, List.Subset.refl _⟩
    | stop => exact x.client.idles_stop
    | take place notification => exact x.client.idles_takeAt place notification
    | step place => exact x.client.idles_stepAt place
  | write count =>
    refine ⟨rfl, ?_⟩
    change Client.outstanding { x.client with connection := _ } ⊆ _
    unfold Client.outstanding
    cases x.client.connection <;> exact List.Subset.refl _
  | _ => exact .refl x.client

theorem number?_perform (x : Exchange) (act : Act) :
    (x.number? act = none ∧ (x.perform act).client.lastNumber = x.client.lastNumber) ∨
      (x.number? act = some (nextNumber x.client.lastNumber) ∧
        (x.perform act).client.lastNumber = nextNumber x.client.lastNumber) := by
  unfold number?
  cases calls : act.call? with
  | none => exact .inl ⟨rfl, (idles_of_silent calls).same⟩
  | some call =>
    have called := x.client.called call
    rw [client_of_call calls, Option.bind_some]
    generalize (x.client.call call).1 = answer at called
    generalize (x.client.call call).2 = client at called ⊢
    cases called with
    | unnumbered unnumbered plain idles => exact .inl ⟨by simp [unnumbered], idles.same⟩
    | taken numbered packet next => exact .inr ⟨by simp [numbered], next⟩
    | refused numbered next => exact .inr ⟨by simp [numbered], next⟩

theorem taken?_eq_some {call : EngineCall} (calls : act.call? = some call) :
    x.taken? act = some number ↔ x.client.sent call = .ok (.packet number) := by
  unfold taken?
  rw [calls, Option.bind_some]
  split
  next other sent => rw [sent, Option.some.injEq, Except.ok.injEq, RequestId.packet.injEq]
  next other => exact ⟨nofun, fun sent => absurd sent (other number)⟩

theorem called_of_call {call : EngineCall} (calls : act.call? = some call) :
    (x.taken? act = some number → x.number? act = some number) ∧
      (number ∈ (x.perform act).client.outstanding →
        number ∈ x.client.outstanding ∨ x.taken? act = some number) := by
  have called := x.client.called call
  rw [taken?_eq_some calls, client_of_call calls, Client.sent, number?, calls, Option.bind_some]
  generalize (x.client.call call).1 = answer at called ⊢
  generalize (x.client.call call).2 = client at called ⊢
  cases called with
  | unnumbered unnumbered plain idles =>
    exact ⟨fun sent => absurd sent (plain number), fun waits => .inl (idles.expects waits)⟩
  | taken numbered packet next expects =>
    rw [Except.map, packet, if_pos numbered, Except.ok.injEq, RequestId.packet.injEq,
      Option.some.injEq]
    exact ⟨id, fun waits => (expects number waits).imp_right Eq.symm⟩
  | refused numbered next expects restored => exact ⟨nofun, fun waits => .inl (expects waits)⟩

theorem number?_of_taken (taken : x.taken? act = some number) : x.number? act = some number := by
  cases calls : act.call? with
  | none =>
    rw [taken?, calls] at taken
    cases taken
  | some call => exact (called_of_call calls).1 taken

theorem next_of_taken (taken : x.taken? act = some number) :
    nextNumber x.client.lastNumber = number ∧ (x.perform act).client.lastNumber = number := by
  have used := number?_of_taken taken
  rcases x.number?_perform act with ⟨unused, -⟩ | ⟨next, last⟩
  · cases unused.symm.trans used
  · obtain rfl := Option.some.inj (next.symm.trans used)
    exact ⟨rfl, last⟩

theorem find?_perform (found : ((x.perform act).table.find? (.packet number)).isSome) :
    (x.table.find? (.packet number)).isSome ∨ x.taken? act = some number := by
  cases act with
  | request call entry =>
    rw [taken?_eq_some rfl]
    simp only [perform] at found
    cases sent : x.client.sent call with
    | error fault =>
      rw [sent] at found
      exact .inl found
    | ok id =>
      rw [sent] at found
      by_cases same : .packet number = id
      · exact .inr (congrArg Except.ok same.symm)
      · rw [PendingTable.register, PendingTable.find?_insert_of_ne same] at found
        exact .inl found
  | settle id =>
    by_cases same : .packet number = id
    · rw [perform, same, PendingTable.find?_erase_self] at found
      cases found
    · rw [perform, PendingTable.find?_erase_of_ne same] at found
      exact .inl found
  | finish entry =>
    have apart : RequestId.packet number ≠ .disconnect := RequestId.noConfusion
    rw [perform, PendingTable.find?_insert_of_ne apart] at found
    exact .inl found
  | lose =>
    rw [perform, PendingTable.find?_packet_withoutPackets] at found
    cases found
  | clear => cases found
  | proceed | write => exact .inl found

theorem inFlight_perform (inFlight : (x.perform act).InFlight number) :
    x.InFlight number ∨ x.taken? act = some number := by
  rcases inFlight with found | waits
  · exact (find?_perform found).imp_left .inl
  · cases calls : act.call? with
    | none => exact .inl (.inr ((idles_of_silent calls).expects waits))
    | some call => exact ((called_of_call calls).2 waits).imp_left .inr

/-! ### Runs -/

theorem run_append (first second : List Act) (x : Exchange) :
    run (first ++ second) x = run second (run first x) := by
  induction first generalizing x with
  | nil => rfl
  | cons act rest ih => exact ih (x.perform act)

theorem given_append (first second : List Act) (x : Exchange) :
    given (first ++ second) x = given first x ++ given second (run first x) := by
  induction first generalizing x with
  | nil => rfl
  | cons act rest ih => rw [List.cons_append, given, ih, given, List.append_assoc, run]

/-- Whatever happens, the numbers are consecutive, and the last of them is where the counter
stands. -/
theorem given_run (acts : List Act) (x : Exchange) :
    given acts x = numbersAfter x.client.lastNumber (given acts x).length ∧
      nextNumber (run acts x).client.lastNumber =
        nextNumber^[(given acts x).length] (nextNumber x.client.lastNumber) := by
  induction acts generalizing x with
  | nil => exact ⟨rfl, rfl⟩
  | cons act rest ih =>
    obtain ⟨numbers, last⟩ := ih (x.perform act)
    rw [given, run]
    rcases x.number?_perform act with ⟨unused, same⟩ | ⟨used, next⟩
    · rw [unused, Option.toList_none, List.nil_append, ← same]
      exact ⟨numbers, last⟩
    · rw [used, Option.toList_some, List.singleton_append, List.length_cons]
      rw [next] at numbers last
      exact ⟨congrArg (_ :: ·) numbers, last⟩

/-- The number of a request in flight comes next just where whole turns of numbers end. -/
theorem HeldFor.next_eq_iff {count : Nat} (held : HeldFor acts x number count) :
    nextNumber (run acts x).client.lastNumber = number ↔ period ∣ count + 1 := by
  obtain ⟨before, act, later, rfl, taken, -, rfl⟩ := held
  obtain ⟨next, last⟩ := next_of_taken taken
  rw [run_append, run_append, run, run, run, (given_run later _).2, ← Function.iterate_succ_apply,
    last, ← next, ← Nat.modEq_zero_iff_dvd]
  exact iterate_eq_iff _ _ 0

theorem HeldFor.next_ne {count : Nat} (held : HeldFor acts x number count)
    (few : count + 1 < period) : nextNumber (run acts x).client.lastNumber ≠ number := by
  intro same
  exact Nat.not_dvd_of_pos_of_lt (Nat.succ_pos count) few (held.next_eq_iff.mp same)

theorem HeldFor.concat {count : Nat} (held : HeldFor acts x number count)
    (inFlight : (run (acts ++ [act]) x).InFlight number) :
    ∃ count, HeldFor (acts ++ [act]) x number count := by
  obtain ⟨before, first, later, rfl, taken, since, -⟩ := held
  refine ⟨_, before, first, later ++ [act], by simp, taken, fun part within => ?_, rfl⟩
  rcases List.prefix_concat_iff.mp within with whole | shorter
  · rw [whole]
    simpa using inFlight
  · exact since part shorter

/-- What is in flight was taken, and has been in flight since. -/
theorem heldFor_of_inFlight (idle : ∀ number, ¬ x.InFlight number)
    (inFlight : (run acts x).InFlight number) : ∃ count, HeldFor acts x number count := by
  -- By the last act: it took the request, or the request was in flight before and has an act of its
  -- own further back.
  induction acts using List.reverseRecOn with
  | nil => exact absurd inFlight (idle number)
  | append_singleton acts act ih =>
    have step := inFlight
    rw [run_append] at step
    rcases inFlight_perform step with before | taken
    · obtain ⟨count, held⟩ := ih before
      exact held.concat inFlight
    · refine ⟨_, acts, act, [], rfl, taken, fun part within => ?_, rfl⟩
      rw [List.prefix_nil.mp within]
      exact inFlight

/-- While any of the requests in flight is so, fewer numbers are given than in a whole turn,
counting the one that comes next. -/
def IsTimely (acts : List Act) (x : Exchange) : Prop :=
  ∀ number, (run acts x).InFlight number → ∃ count, HeldFor acts x number count ∧ count + 1 < period

theorem HeldFor.count_le {count : Nat} (held : HeldFor acts x number count) :
    count ≤ (given acts x).length := by
  obtain ⟨before, act, later, rfl, -, -, rfl⟩ := held
  rw [given_append, given, run_append, List.length_append, List.length_append]
  exact (Nat.le_add_left _ _).trans (Nat.le_add_left _ _)

theorem timely_of_few (idle : ∀ number, ¬ x.InFlight number)
    (few : (given acts x).length + 1 < period) : IsTimely acts x := by
  intro number inFlight
  obtain ⟨count, held⟩ := heldFor_of_inFlight idle inFlight
  exact ⟨count, held, (Nat.succ_le_succ held.count_le).trans_lt few⟩

/-! ### Fresh numbers -/

theorem IsTimely.fresh (timely : IsTimely acts x) :
    ¬ (run acts x).InFlight (nextNumber (run acts x).client.lastNumber) := by
  intro inFlight
  obtain ⟨count, held, few⟩ := timely _ inFlight
  exact held.next_ne few rfl

theorem not_inFlight_opened (options : Options) (capacity : Nat) (start number : UInt32) :
    ¬ (opened options capacity start).InFlight number := by
  rintro (found | waits)
  · cases found
  · exact List.not_mem_nil waits

structure KeepsFresh (acts : List Act) (x : Exchange) : Prop where
  /-- No number is left out, those of refused requests among them. -/
  consecutive : given acts x = numbersAfter x.client.lastNumber (given acts x).length
  held : ∀ number, (run acts x).InFlight number → ∃ count, HeldFor acts x number count
  /-- The number of a request in flight is not given again before a whole turn of numbers. -/
  apart : ∀ number count, HeldFor acts x number count → count + 1 < period →
    nextNumber (run acts x).client.lastNumber ≠ number
  /-- A request that is taken is new to the table and to the connection, and replaces nothing. -/
  taken : IsTimely acts x → ∀ call entry number,
    (run acts x).taken? (.request call entry) = some number →
      ¬ (run acts x).InFlight number ∧
        ((run acts x).perform (.request call entry)).table.entries =
          (run acts x).table.entries ++ [(.packet number, entry)]
  /-- Taking back the next request takes back no other. -/
  forgotten : IsTimely acts x → ∀ connection, (run acts x).client.connection = some connection →
    ∀ kind, (connection.link.tracker.expect kind (nextNumber (run acts x).client.lastNumber)).forget
      (nextNumber (run acts x).client.lastNumber) = connection.link.tracker
  /-- A request that finds no room uses up its number and changes nothing else. -/
  refused : IsTimely acts x → ∀ call entry fault, (run acts x).client.isNumbered call = true →
    ((run acts x).client.call call).1 = .error fault →
      (run acts x).perform (.request call entry) =
        { run acts x with
          client := { (run acts x).client with
            lastNumber := nextNumber (run acts x).client.lastNumber } }

theorem keepsFresh (idle : ∀ number, ¬ x.InFlight number) (acts : List Act) :
    KeepsFresh acts x where
  consecutive := (given_run acts x).1
  held := fun number inFlight => heldFor_of_inFlight idle inFlight
  apart := fun number count held few => held.next_ne few
  taken := by
    intro timely call entry number taken
    have fresh := timely.fresh
    rw [(next_of_taken taken).1] at fresh
    have absent : (run acts x).table.find? (.packet number) = none := by
      by_contra found
      exact fresh (.inl (Option.isSome_iff_ne_none.mpr found))
    have others : ∀ entry ∈ (run acts x).table.entries, (entry.1 != .packet number) = true :=
      fun entry member => bne_iff_ne.mpr (PendingTable.find?_none absent entry member)
    refine ⟨fresh, ?_⟩
    rw [perform, (taken?_eq_some rfl).mp taken]
    exact congrArg (· ++ _) (List.filter_eq_self.mpr others)
  forgotten := by
    intro timely connection active kind
    refine Tracker.forget_expect (fun waits => timely.fresh (.inr ?_)) kind
    rw [Client.outstanding, active]
    exact waits
  refused := by
    intro timely call entry fault numbered refused
    have unused : nextNumber (run acts x).client.lastNumber ∉ (run acts x).client.outstanding :=
      fun waits => timely.fresh (.inr waits)
    have kept : ((run acts x).table.register entry ((run acts x).client.sent call)).2 =
        (run acts x).table := by
      rw [Client.sent, refused]
      rfl
    rw [perform, kept, Client.restored_of_refused numbered refused unused]

/-- Whatever the counter starts from, a number is drawn with two increments at most, and it is not
zero. As many requests as there are numbers, one after the other, get different ones. So as long as
fewer are numbered while a request is in flight, its number is not given again, and a request that
is refused is all that is taken back. -/
theorem numbers_stay_fresh (options : Options) (capacity : Nat) (start : UInt32)
    (acts : List Act) :
    (∀ allowed, draw (allowed + 2) start = some (nextNumber start)) ∧ nextNumber start ≠ 0 ∧
      (numbersAfter start period).Nodup ∧ KeepsFresh acts (opened options capacity start) :=
  ⟨draw_eq start, nextNumber_ne_zero start, (nodup_numbersAfter_iff start period).mpr le_rfl,
    keepsFresh (not_inFlight_opened options capacity start) acts⟩

/-- A line with room for one. The first of two publishes is written before the second gets the last
number of the turn. -/
def crowdedActs : List Act :=
  [.proceed .bind, .request (.connect (.ofSeconds 30)) {},
    .request (.publish "a" ⟨#[]⟩ .atLeastOnce false) {}, .write 1,
    .request (.publish "b" ⟨#[]⟩ .atLeastOnce false) {}]

/-- There is no room for a third, which uses up the first number of the next turn all the same. Once
there is room, the table keeps it beside the others. -/
theorem crowdedActs_fresh :
    let x := opened default 1 4294967293
    let third : Act := .request (.subscribe "c" .atLeastOnce) { resubscribe := true }
    let y := run crowdedActs x
    given crowdedActs x = [4294967294, 4294967295] ∧
      y.perform third = { y with client := { y.client with lastNumber := 1 } } ∧
      (run (crowdedActs ++ [third, .write 1, third]) x).table.entries =
        [(.connect, {}), (.packet 4294967294, {}), (.packet 4294967295, {}),
          (.packet 2, { resubscribe := true })] := by
  intro x third y
  have idle := not_inFlight_opened default 1 4294967293
  obtain ⟨-, -, -, before⟩ := numbers_stay_fresh default 1 4294967293 crowdedActs
  obtain ⟨-, -, -, after⟩ :=
    numbers_stay_fresh default 1 4294967293 (crowdedActs ++ [third, .write 1])
  have timely : IsTimely crowdedActs x := timely_of_few idle (by decide +kernel)
  have later : IsTimely (crowdedActs ++ [third, .write 1]) x :=
    timely_of_few idle (by decide +kernel)
  refine ⟨by decide +kernel, ?_, ?_⟩
  · have next : nextNumber y.client.lastNumber = 1 := by decide +kernel
    rw [← next]
    exact before.refused timely _ _ Client.lineFault (by decide +kernel) rfl
  · have kept := (after.taken later (.subscribe "c" .atLeastOnce) { resubscribe := true } 2
      (by decide +kernel)).2
    have entries : (run (crowdedActs ++ [third, .write 1]) x).table.entries =
        [(.connect, {}), (.packet 4294967294, {}), (.packet 4294967295, {})] := by decide +kernel
    rw [entries] at kept
    exact kept

end Exchange

end DurableMqtt.Network
