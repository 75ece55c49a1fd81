import Mathlib
import DurableMqtt.Queue

/-!
What the offline queue does with the items that it is given.

A bounded queue gives items up in two places: one at a time where it is appended to, and all at once
where it is reconfigured. Both come to the same, since after any number of appends a queue holds
what trimming leaves of the items that it was given.
-/

namespace DurableMqtt.OfflineQueue

variable {α : Type}

/-- What appending an item can come to. -/
inductive Appends (q : OfflineQueue α) (item : α) : Appended × OfflineQueue α → Prop where
  | stored : Appends q item (.stored, { q with items := q.items ++ [item] })
  | disabled (disabled : q.capacity = .disabled) : Appends q item (.disabled, q)
  | turnedAway (limit : Nat) (capacity : q.capacity = .bounded limit)
      (full : limit ≤ q.items.length) (policy : q.policy = .dropNewest) :
      Appends q item (.full, q)
  | evicting (limit : Nat) (capacity : q.capacity = .bounded limit)
      (full : limit ≤ q.items.length) (policy : q.policy = .dropOldest) :
      Appends q item (.full, { q with items := q.items.drop 1 ++ [item] })

theorem append_appends (q : OfflineQueue α) (item : α) : Appends q item (q.append item) := by
  obtain ⟨items, capacity, policy⟩ := q
  cases capacity with
  | disabled => exact .disabled rfl
  | unbounded => exact .stored
  | bounded limit =>
    by_cases full : limit ≤ items.length
    · simp only [append, full, ↓reduceIte]
      cases policy with
      | dropOldest => exact .evicting limit rfl full rfl
      | dropNewest => exact .turnedAway limit rfl full rfl
    · simp only [append, full, ↓reduceIte]
      exact .stored

theorem append_fst (q : OfflineQueue α) (x y : α) : (q.append x).1 = (q.append y).1 := by
  unfold append
  split
  · rfl
  · rfl
  · split
    · split <;> rfl
    · rfl

def trimmed (capacity : Capacity) (policy : DropPolicy) (items : List α) : List α :=
  match capacity with
  | .disabled => items
  | .unbounded => []
  | .bounded limit =>
    match policy with
    | .dropOldest => items.take (items.length - limit)
    | .dropNewest => items.drop limit

theorem trim_perm (capacity : Capacity) (policy : DropPolicy) (items : List α) :
    (trim capacity policy items ++ trimmed capacity policy items).Perm items := by
  cases capacity with
  | disabled => exact List.Perm.refl _
  | unbounded => exact List.Perm.of_eq (List.append_nil items)
  | bounded limit =>
    cases policy with
    | dropOldest =>
      exact List.perm_append_comm.trans (List.Perm.of_eq (List.take_append_drop _ items))
    | dropNewest => exact List.Perm.of_eq (List.take_append_drop limit items)

theorem trim_sublist (capacity : Capacity) (policy : DropPolicy) (items : List α) :
    (trim capacity policy items).Sublist items := by
  cases capacity with
  | disabled => exact List.nil_sublist _
  | unbounded => exact List.Sublist.refl _
  | bounded limit =>
    cases policy with
    | dropOldest => exact List.drop_sublist _ _
    | dropNewest => exact List.take_sublist _ _

/-! ### Filling and trimming -/

def appendAll (q : OfflineQueue α) : List α → List Appended × OfflineQueue α
  | [] => ([], q)
  | item :: rest =>
    let (result, q) := q.append item
    let (results, q) := q.appendAll rest
    (result :: results, q)

theorem appendAll_append (q : OfflineQueue α) (xs ys : List α) :
    q.appendAll (xs ++ ys) =
      ((q.appendAll xs).1 ++ ((q.appendAll xs).2.appendAll ys).1,
        ((q.appendAll xs).2.appendAll ys).2) := by
  induction xs generalizing q with
  | nil => rfl
  | cons x xs ih => simp only [List.cons_append, appendAll, ih]

def kept (capacity : Int) (policy : DropPolicy) (given : List α) : OfflineQueue α :=
  { items := trim (.ofInt capacity) policy given, capacity := .ofInt capacity, policy }

def verdict (capacity : Capacity) (count : Nat) : Appended :=
  match capacity with
  | .disabled => .disabled
  | .unbounded => .stored
  | .bounded limit => if count < limit then .stored else .full

def verdicts (capacity : Capacity) (count : Nat) : List Appended :=
  match capacity with
  | .disabled => List.replicate count .disabled
  | .unbounded => List.replicate count .stored
  | .bounded limit =>
    List.replicate (min limit count) .stored ++ List.replicate (count - limit) .full

theorem verdicts_zero (capacity : Capacity) : verdicts capacity 0 = [] := by
  cases capacity <;> simp [verdicts]

theorem verdicts_succ (capacity : Capacity) (count : Nat) :
    verdicts capacity (count + 1) = verdicts capacity count ++ [verdict capacity count] := by
  cases capacity with
  | disabled => exact List.replicate_succ'
  | unbounded => exact List.replicate_succ'
  | bounded limit =>
    simp only [verdicts, verdict]
    by_cases room : count < limit
    · rw [if_pos room, Nat.min_eq_right (Nat.succ_le_of_lt room), Nat.min_eq_right room.le,
        Nat.sub_eq_zero_of_le (Nat.succ_le_of_lt room), Nat.sub_eq_zero_of_le room.le]
      simp only [List.replicate_zero, List.append_nil, List.replicate_succ']
    · have reached : limit ≤ count := Nat.le_of_not_lt room
      rw [if_neg room, Nat.min_eq_left reached, Nat.min_eq_left (Nat.le_succ_of_le reached),
        Nat.succ_sub reached, List.replicate_succ', List.append_assoc]

theorem trim_nil (capacity : Capacity) (policy : DropPolicy) :
    trim capacity policy ([] : List α) = [] := List.sublist_nil.mp (trim_sublist capacity policy [])

theorem trim_of_fits {limit : Nat} {items : List α} (fits : items.length ≤ limit)
    (policy : DropPolicy) : trim (.bounded limit) policy items = items := by
  cases policy with
  | dropOldest => rw [trim, Nat.sub_eq_zero_of_le fits, List.drop_zero]
  | dropNewest => exact List.take_of_length_le fits

theorem length_trim (limit : Nat) (policy : DropPolicy) (items : List α) :
    (trim (.bounded limit) policy items).length = min limit items.length := by
  cases policy with
  | dropOldest =>
    simp only [trim, List.length_drop]
    omega
  | dropNewest => exact List.length_take

/-- One more item at the end of those that are trimmed already. A limit of zero would let go of an
item where there is none. -/
theorem append_trimmed {limit : Nat} (positive : 0 < limit) (policy : DropPolicy) (given : List α)
    (item : α) :
    append ⟨trim (.bounded limit) policy given, .bounded limit, policy⟩ item =
      (verdict (.bounded limit) given.length,
        ⟨trim (.bounded limit) policy (given ++ [item]), .bounded limit, policy⟩) := by
  unfold append verdict
  simp only [length_trim]
  by_cases room : given.length < limit
  · have fits : (given ++ [item]).length ≤ limit := by simpa using room
    rw [if_neg (by omega), if_pos room, trim_of_fits room.le, trim_of_fits fits]
  · have reached : limit ≤ given.length := Nat.le_of_not_lt room
    rw [if_pos (by omega), if_neg room]
    cases policy with
    | dropNewest => simp only [trim, List.take_append_of_le_length reached]
    | dropOldest =>
      have next : given.length + 1 - limit = given.length - limit + 1 := Nat.succ_sub reached
      have most : given.length - limit + 1 ≤ given.length := by omega
      simp only [trim, List.drop_drop, List.length_append, List.length_singleton, next,
        List.drop_append_of_le_length most]

theorem append_kept (capacity : Int) (policy : DropPolicy) (given : List α) (item : α) :
    (kept capacity policy given).append item =
      (verdict (.ofInt capacity) given.length, kept capacity policy (given ++ [item])) := by
  unfold kept Capacity.ofInt
  split
  next => rfl
  next nonzero =>
    split
    next => rfl
    next => exact append_trimmed (by omega) policy given item

/-- A new queue holds what trimming leaves of all that it was given. -/
theorem appendAll_empty (capacity : Int) (policy : DropPolicy) (given : List α) :
    (empty capacity policy).appendAll given =
      (verdicts (.ofInt capacity) given.length, kept capacity policy given) := by
  induction given using List.reverseRecOn with
  | nil => rw [kept, trim_nil, List.length_nil, verdicts_zero, empty, appendAll]
  | append_singleton given item ih =>
    rw [appendAll_append, ih, List.length_append, List.length_singleton, verdicts_succ]
    simp only [appendAll, append_kept]

theorem ofInt_of_pos {capacity : Int} (positive : 0 < capacity) :
    Capacity.ofInt capacity = .bounded capacity.toNat := by
  rw [Capacity.ofInt, if_neg (by omega), if_neg (by omega)]

theorem ofInt_of_neg {capacity : Int} (negative : capacity < 0) :
    Capacity.ofInt capacity = .unbounded := by
  rw [Capacity.ofInt, if_neg (by omega), if_pos negative]

theorem append_of_full {limit : Nat} (positive : 0 < limit) {q : OfflineQueue α}
    (bounded : q.capacity = .bounded limit) (full : limit ≤ q.items.length) (item : α) :
    (q.append item).2.items.length = q.items.length ∧
      (q.policy = .dropNewest → (q.append item).2 = q) := by
  obtain ⟨items, _, policy⟩ := q
  cases bounded
  simp only at full
  simp only [append, if_pos full]
  cases policy with
  | dropNewest => exact ⟨rfl, fun _ => rfl⟩
  | dropOldest =>
    refine ⟨?_, fun other => DropPolicy.noConfusion other⟩
    simp only [List.length_append, List.length_drop, List.length_singleton]
    omega

theorem append_widened {limit wide : Nat} {items : List α} (policy : DropPolicy)
    (same : limit ≤ items.length ↔ wide ≤ items.length) (item : α) :
    (append ⟨items, .bounded limit, policy⟩ item).2 =
      { (append ⟨items, .bounded wide, policy⟩ item).2 with capacity := .bounded limit } := by
  by_cases full : limit ≤ items.length
  · simp only [append, if_pos full, if_pos (same.mp full)]
    cases policy <;> rfl
  · simp only [append, if_neg full, if_neg (full ∘ same.mpr)]

/-- A queue that is beyond its bound takes items as if it were just at it. -/
theorem appendAll_bounded {limit : Nat} (positive : 0 < limit) {q : OfflineQueue α}
    (bounded : q.capacity = .bounded limit) (given : List α) :
    (q.appendAll given).2 =
      { q with items := trim (.bounded (max limit q.items.length)) q.policy (q.items ++ given) } := by
  obtain ⟨items, capacity, policy⟩ := q
  change capacity = .bounded limit at bounded
  subst bounded
  generalize reached : max limit items.length = wide
  induction given using List.reverseRecOn with
  | nil =>
    have fits : (items ++ []).length ≤ wide := by
      rw [List.append_nil]
      omega
    rw [trim_of_fits fits, List.append_nil]
    rfl
  | append_singleton given item ih =>
    have wider : 0 < wide := by omega
    have length := length_trim wide policy (items ++ given)
    rw [List.length_append] at length
    have same : limit ≤ (trim (.bounded wide) policy (items ++ given)).length ↔
        wide ≤ (trim (.bounded wide) policy (items ++ given)).length := by omega
    rw [appendAll_append, ih]
    change (append ⟨_, .bounded limit, policy⟩ item).2 = _
    rw [append_widened policy same, append_trimmed wider, List.append_assoc]

/-! ### Room -/

/-- Those of the items that are in the queue once all of them were appended. -/
def admitted {β : Type} (q : OfflineQueue α) (given : List β) : List β :=
  match q.capacity with
  | .disabled => []
  | .unbounded => given
  | .bounded limit =>
    match q.policy with
    | .dropNewest => given.take (limit - q.items.length)
    | .dropOldest => given.drop (given.length - max limit q.items.length)

/-- Whether as many items can be appended and none of them is lost. -/
def hasRoom (q : OfflineQueue α) (count : Nat) : Bool :=
  match q.capacity with
  | .disabled => count = 0
  | .unbounded => true
  | .bounded limit =>
    match q.policy with
    | .dropNewest => count ≤ limit - q.items.length
    | .dropOldest => count ≤ max limit q.items.length

theorem admitted_sublist {β : Type} (q : OfflineQueue α) (given : List β) :
    (q.admitted given).Sublist given := by
  unfold admitted
  split
  · exact List.nil_sublist _
  · exact List.Sublist.refl _
  · split
    · exact List.take_sublist _ _
    · exact List.drop_sublist _ _

theorem admitted_map {β γ : Type} (q : OfflineQueue α) (f : β → γ) (given : List β) :
    q.admitted (given.map f) = (q.admitted given).map f := by
  unfold admitted
  split
  · rfl
  · rfl
  · split
    · exact List.map_take.symm
    · rw [List.length_map, List.map_drop]

theorem admitted_eq_iff {β : Type} (q : OfflineQueue α) (given : List β) :
    q.admitted given = given ↔ q.hasRoom given.length = true := by
  unfold admitted hasRoom
  split
  · rw [decide_eq_true_iff, List.length_eq_zero_iff, eq_comm]
  · exact iff_of_true rfl rfl
  · split
    · rw [decide_eq_true_iff, List.take_eq_self_iff]
    · rw [decide_eq_true_iff]
      constructor
      · intro whole
        have length := congrArg List.length whole
        rw [List.length_drop] at length
        omega
      · intro room
        rw [Nat.sub_eq_zero_of_le room, List.drop_zero]

theorem appendAll_refusing {q : OfflineQueue α} (refuses : ∀ item, (q.append item).2 = q)
    (given : List α) : (q.appendAll given).2 = q := by
  induction given with
  | nil => rfl
  | cons item rest ih =>
    change ((q.append item).2.appendAll rest).2 = q
    rw [refuses item]
    exact ih

theorem appendAll_unbounded {q : OfflineQueue α} (unbounded : q.capacity = .unbounded)
    (given : List α) : (q.appendAll given).2 = { q with items := q.items ++ given } := by
  obtain ⟨items, capacity, policy⟩ := q
  change capacity = .unbounded at unbounded
  subst unbounded
  induction given generalizing items with
  | nil => rw [List.append_nil, appendAll]
  | cons item rest ih =>
    change (appendAll ⟨items ++ [item], .unbounded, policy⟩ rest).2 = _
    rw [ih, List.append_assoc, List.singleton_append]

theorem positive_of_ofInt {n : Int} {limit : Nat} (bounded : Capacity.ofInt n = .bounded limit) :
    0 < limit := by
  unfold Capacity.ofInt at bounded
  split at bounded
  · cases bounded
  · split at bounded
    · cases bounded
    · have same : n.toNat = limit := Capacity.bounded.inj bounded
      omega

theorem appendAll_admitted {n : Int} {q : OfflineQueue α} (capacity : q.capacity = .ofInt n)
    (given : List α) :
    ∃ left, left <:+ q.items ∧
      (q.appendAll given).2 = { q with items := left ++ q.admitted given } := by
  obtain ⟨items, bound, policy⟩ := q
  change bound = .ofInt n at capacity
  cases bound with
  | disabled =>
    refine ⟨items, List.suffix_refl _, ?_⟩
    rw [appendAll_refusing (fun _ => rfl) given]
    exact congrArg (OfflineQueue.mk · .disabled policy) (List.append_nil items).symm
  | unbounded => exact ⟨items, List.suffix_refl _, appendAll_unbounded rfl given⟩
  | bounded limit =>
    rw [appendAll_bounded (positive_of_ofInt capacity.symm) rfl]
    cases policy with
    | dropNewest =>
      refine ⟨items, List.suffix_refl _, ?_⟩
      have room : max limit items.length - items.length = limit - items.length := by omega
      simp only [trim, List.take_append, List.take_of_length_le (Nat.le_max_right limit _), room]
      rfl
    | dropOldest =>
      refine ⟨items.drop (items.length + given.length - max limit items.length),
        List.drop_suffix _ _, ?_⟩
      have beyond : items.length + given.length - max limit items.length - items.length =
          given.length - max limit items.length := by omega
      simp only [trim, List.drop_append, List.length_append, beyond]
      rfl

/-- A new queue that is given items one by one holds none of them, all of them, or as many of the
first or the last as its capacity names, and says of each what became of it. An unbounded queue that
is reconfigured after it was given the items is the same queue, and answers all later appends in the
same way. A queue that is full, or overfull with restored items, does not grow, and one that turns
the newest away stays as it is. -/
theorem filling_trims (capacity : Int) (policy original : DropPolicy) (items : List α) :
    let filled := (empty capacity policy).appendAll items
    (capacity = 0 →
      filled.2.items = [] ∧ filled.1 = List.replicate items.length .disabled) ∧
    (capacity < 0 →
      filled.2.items = items ∧ filled.1 = List.replicate items.length .stored) ∧
    (0 < capacity →
      filled.2.items =
          (match policy with
          | .dropNewest => items.take capacity.toNat
          | .dropOldest => items.rtake capacity.toNat) ∧
        filled.1 = List.replicate (min capacity.toNat items.length) .stored ++
          List.replicate (items.length - capacity.toNat) .full) ∧
    (∀ unbounded < 0,
      let narrowed := ((empty unbounded original).appendAll items).2.reconfigure capacity policy
      narrowed = filled.2 ∧
        ∀ later, (empty capacity policy).appendAll (items ++ later) =
          (filled.1 ++ (narrowed.appendAll later).1, (narrowed.appendAll later).2)) ∧
    ∀ (q : OfflineQueue α) (item : α),
      0 < capacity → q.capacity = .ofInt capacity → capacity ≤ q.items.length →
      (q.append item).2.items.length = q.items.length ∧
        (q.policy = .dropNewest → (q.append item).2 = q) := by
  intro filled
  have here : filled = (verdicts (.ofInt capacity) items.length, kept capacity policy items) :=
    appendAll_empty capacity policy items
  refine ⟨?zero, ?negative, ?positive, ?reconfigured, ?overfull⟩
  case zero =>
    rintro rfl
    rw [here]
    exact ⟨rfl, rfl⟩
  case negative =>
    intro negative
    rw [here, kept, ofInt_of_neg negative]
    exact ⟨rfl, rfl⟩
  case positive =>
    intro positive
    rw [here, kept, ofInt_of_pos positive]
    cases policy <;> exact ⟨rfl, rfl⟩
  case reconfigured =>
    intro unbounded negative narrowed
    have same : narrowed = filled.2 := by
      rw [here]
      unfold narrowed
      rw [appendAll_empty, kept, ofInt_of_neg negative]
      rfl
    refine ⟨same, fun later => ?_⟩
    rw [same]
    exact appendAll_append _ _ _
  case overfull =>
    intro q item positive bounded full
    rw [ofInt_of_pos positive] at bounded
    exact append_of_full (by omega) bounded (by omega) item

/-- Six items for two places, and for a queue that holds three although it has room for two. -/
theorem sixItems_trimmed :
    ((empty 2 .dropOldest).appendAll [1, 2, 3, 4, 5, 6]).2.items = [5, 6] ∧
    ((empty 2 .dropNewest).appendAll [1, 2, 3, 4, 5, 6]).1 =
      [.stored, .stored, .full, .full, .full, .full] ∧
    (((empty (-1) .dropNewest).appendAll [1, 2, 3, 4, 5, 6]).2.reconfigure 2 .dropOldest).items =
      [5, 6] ∧
    ((empty 0 .dropOldest).appendAll [1, 2, 3, 4, 5, 6]).2.items = [] ∧
    ((empty (-3) .dropOldest).appendAll [1, 2, 3, 4, 5, 6]).2.items = [1, 2, 3, 4, 5, 6] ∧
    (append ⟨[1, 2, 3], .ofInt 2, .dropNewest⟩ 4).2.items = [1, 2, 3] := by
  have oldest := filling_trims 2 .dropOldest .dropNewest [1, 2, 3, 4, 5, 6]
  have newest := filling_trims 2 .dropNewest .dropOldest [1, 2, 3, 4, 5, 6]
  have disabled := filling_trims 0 .dropOldest .dropOldest [1, 2, 3, 4, 5, 6]
  have unbounded := filling_trims (-3) .dropOldest .dropOldest [1, 2, 3, 4, 5, 6]
  have last : ((empty 2 .dropOldest).appendAll [1, 2, 3, 4, 5, 6]).2.items = [5, 6] :=
    (oldest.2.2.1 (by decide)).1
  have reconfigured := (oldest.2.2.2.1 (-1) (by decide)).1
  refine ⟨last, (newest.2.2.1 (by decide)).2, ?_, (disabled.1 rfl).1,
    (unbounded.2.1 (by decide)).1, ?_⟩
  · rw [reconfigured]
    exact last
  · rw [(newest.2.2.2.2 ⟨[1, 2, 3], .ofInt 2, .dropNewest⟩ 4 (by decide) rfl (by decide)).2 rfl]

end DurableMqtt.OfflineQueue
