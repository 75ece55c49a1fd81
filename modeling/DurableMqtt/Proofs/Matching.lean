import DurableMqtt.Proofs.Registry
import DurableMqtt.Proofs.Run.Routing

/-!
Which subscription a message belongs to.

What a filter covers is said here without its scan: level by level, or level by level up to a `#` at
its end. From that and the history of the registry follows the record that a message goes to.
-/

namespace DurableMqtt

namespace Topic

def StandsFor (filter topic : Level) : Prop := filter = ['+'] ∨ filter = topic

/-- The levels of a filter cover those of a topic: one by one, or as far as the `#` goes at which
the filter ends. -/
def LevelsCover (filter topic : List Level) : Prop :=
  List.Forall₂ StandsFor filter topic ∨
    ∃ front initial rest, filter = front ++ [['#']] ∧ topic = initial ++ rest ∧
      List.Forall₂ StandsFor front initial

def Covers (filter topic : String) : Prop :=
  LevelsCover (filter.toList.splitOn '/') (topic.toList.splitOn '/')

/-! ### Levels -/

theorem levelsOf_eq (text : List Char) : levelsOf text = text.splitOn '/' := by
  unfold List.splitOn
  induction text with
  | nil => rfl
  | cons c rest ih =>
    rw [levelsOf, List.splitOnP_cons_eq_if_modifyHead, ← ih]
    by_cases slash : c = '/'
    · simp [slash]
    · simp only [slash, beq_iff_eq, if_false]
      cases levels : levelsOf rest with
      | nil => exact absurd levels (levelsOf_ne_nil rest)
      | cons level more => rfl

theorem mem_of_mem_levelsOf {text : List Char} {level : Level} (member : level ∈ levelsOf text)
    {c : Char} (inside : c ∈ level) : c ∈ text := by
  induction text generalizing level with
  | nil =>
    rw [List.mem_singleton.mp member] at inside
    cases inside
  | cons first rest ih =>
    unfold levelsOf at member
    split at member
    · rcases List.mem_cons.mp member with rfl | later
      · cases inside
      · exact List.mem_cons_of_mem first (ih later inside)
    · split at member
      next none => exact absurd none (levelsOf_ne_nil rest)
      next level' more levels =>
        rw [levels] at ih
        rcases List.mem_cons.mp member with rfl | later
        · rcases List.mem_cons.mp inside with rfl | deeper
          · exact List.mem_cons_self
          · exact List.mem_cons_of_mem first (ih List.mem_cons_self deeper)
        · exact List.mem_cons_of_mem first (ih (List.mem_cons_of_mem level' later) inside)

theorem ne_hash_of_isName {topic : String} (name : isName topic = true) :
    ∀ level ∈ levels topic, level ≠ ['#'] := by
  rintro level member rfl
  have inside := mem_of_mem_levelsOf member (List.mem_singleton_self '#')
  simp [isName, inside] at name

/-! ### What a filter covers -/

theorem levelsCover_cons {f t : Level} {filter topic : List Level} (plain : f ≠ ['#']) :
    LevelsCover (f :: filter) (t :: topic) ↔ StandsFor f t ∧ LevelsCover filter topic := by
  unfold LevelsCover
  constructor
  · rintro (same | ⟨front, initial, rest, ends, starts, same⟩)
    · cases same with
      | cons first later => exact ⟨first, Or.inl later⟩
    · cases same with
      | nil =>
        cases ends
        exact absurd rfl plain
      | cons first later =>
        cases ends
        cases starts
        exact ⟨first, Or.inr ⟨_, _, rest, rfl, rfl, later⟩⟩
  · rintro ⟨first, later | ⟨front, initial, rest, rfl, rfl, later⟩⟩
    · exact Or.inl (List.Forall₂.cons first later)
    · exact Or.inr ⟨f :: front, t :: initial, rest, rfl, rfl, List.Forall₂.cons first later⟩

theorem not_levelsCover_nil {f : Level} {filter : List Level} (plain : f ≠ ['#']) :
    ¬ LevelsCover (f :: filter) [] := by
  rintro (same | ⟨front, initial, rest, ends, starts, same⟩)
  · cases same
  · cases same with
    | nil =>
      cases ends
      exact plain rfl
    | cons first later => cases starts

theorem levelsCover_hash (topic : List Level) : LevelsCover [['#']] topic :=
  Or.inr ⟨[], [], topic, rfl, rfl, List.Forall₂.nil⟩

theorem ne_hash_of_more {f g : Level} {filter : List Level}
    (valid : areFilterLevels (f :: g :: filter) = true) : f ≠ ['#'] := by
  rintro rfl
  cases valid

theorem areFilterLevels_tail {f : Level} {filter : List Level}
    (valid : areFilterLevels (f :: filter) = true) : areFilterLevels filter = true := by
  cases filter with
  | nil => rfl
  | cons g rest => exact (Bool.and_eq_true_iff.mp valid).2

theorem levelsCover_iff {filter topic : List Level} (valid : areFilterLevels filter = true)
    (name : ∀ level ∈ topic, level ≠ ['#']) :
    levelsCover filter topic = true ↔ LevelsCover filter topic := by
  induction filter generalizing topic with
  | nil =>
    cases topic with
    | nil => exact ⟨fun _ => Or.inl List.Forall₂.nil, fun _ => rfl⟩
    | cons t topic => simp [levelsCover, LevelsCover]
  | cons f filter ih =>
    by_cases hash : f = ['#']
    · cases filter with
      | nil =>
        subst hash
        exact ⟨fun _ => levelsCover_hash topic, fun _ => rfl⟩
      | cons g rest => exact absurd hash (ne_hash_of_more valid)
    · cases topic with
      | nil => simp [levelsCover, not_levelsCover_nil hash]
      | cons t topic =>
        rw [List.forall_mem_cons] at name
        rw [levelsCover_cons hash, ← ih (areFilterLevels_tail valid) name.2, levelsCover,
          if_neg name.1]
        · unfold StandsFor
          split <;> simp_all
        · exact hash

/-- The comparison of a filter with a name that is not reserved finds what the filter covers. -/
theorem covers_iff {filter topic : String} (valid : isFilter filter = true)
    (name : isName topic = true) (narrow : startsWide topic = false) :
    (covers filter topic).toOption = some true ↔
      topic.toList.head? ≠ some '$' ∧ Covers filter topic := by
  have scanned : levelsCover (levels filter) (levels topic) = true ↔ Covers filter topic := by
    unfold Covers
    rw [← levelsOf_eq, ← levelsOf_eq]
    exact levelsCover_iff (Bool.and_eq_true_iff.mp valid).2 (ne_hash_of_isName name)
  unfold covers
  cases chars : topic.toList with
  | nil =>
    rw [List.head?_nil]
    simpa [Except.toOption] using scanned
  | cons c rest =>
    have short : ¬ 1 < c.utf8Size := by simpa [startsWide, chars] using narrow
    rw [List.head?_cons]
    simp only [if_neg short]
    by_cases dollar : c = '$'
    · simp [dollar, Except.toOption]
    · simpa [dollar, Except.toOption] using scanned

end Topic

namespace Registry

/-- The record that a message belongs to, by the history of the registry. -/
inductive Recipient (history : List Change) (topic : String) : Option Subscription → Prop where
  /-- There is a record for exactly this topic. -/
  | same {record : Subscription} (stands : standing? history topic = some record) :
    Recipient history topic (some record)
  | reserved (absent : standing? history topic = none)
    (dollar : topic.toList.head? = some '$') : Recipient history topic none
  /-- Of the records that cover the topic, it came in first. -/
  | oldest {record : Subscription} {i : Nat} (absent : standing? history topic = none)
    (plain : topic.toList.head? ≠ some '$') (stands : standing? history record.topic = some record)
    (covers : Topic.Covers record.topic topic) (entered : EnteredAt history record.topic i)
    (first : ∀ other j, standing? history other.topic = some other →
      Topic.Covers other.topic topic → EnteredAt history other.topic j → i ≤ j) :
    Recipient history topic (some record)
  | nobody (absent : standing? history topic = none) (plain : topic.toList.head? ≠ some '$')
    (uncovered : ∀ other, standing? history other.topic = some other →
      ¬ Topic.Covers other.topic topic) : Recipient history topic none

variable {history : List Change} {topic : String}

theorem Recipient.unique {first second : Option Subscription}
    (one : Recipient history topic first) (other : Recipient history topic second) :
    first = second := by
  cases one with
  | same stands =>
    cases other with
    | same again => rw [← stands, again]
    | reserved absent | oldest absent | nobody absent => cases stands.symm.trans absent
  | reserved absent dollar =>
    cases other with
    | same stands => cases stands.symm.trans absent
    | oldest _ plain => exact absurd dollar plain
    | reserved | nobody => rfl
  | oldest absent plain stands covers entered earliest =>
    cases other with
    | same again => cases again.symm.trans absent
    | reserved _ dollar => exact absurd dollar plain
    | nobody _ _ uncovered => exact absurd covers (uncovered _ stands)
    | oldest _ _ stands' covers' entered' earliest' =>
      have before := earliest _ _ stands' covers' entered'
      have after := earliest' _ _ stands covers entered
      rw [Nat.le_antisymm before after] at entered
      rw [← stands, ← stands', entered.topic_eq entered']
  | nobody absent plain uncovered =>
    cases other with
    | same stands => cases stands.symm.trans absent
    | oldest _ _ stands covers => exact absurd covers (uncovered _ stands)
    | reserved | nobody => rfl

theorem grant_of_standing {record : Subscription} (stands : standing? history topic = some record) :
    Change.grant record ∈ history := by
  obtain ⟨change, last, here⟩ := Option.bind_eq_some_iff.mp stands
  have member := List.mem_of_mem_filter (List.mem_of_getLast? last)
  cases change with
  | grant granted => exact Option.some.inj here ▸ member
  | withdraw gone => cases here

theorem recipient?_of_history
    (valid : ∀ record, Change.grant record ∈ history → Topic.isFilter record.topic = true)
    (name : Topic.isName topic = true) (narrow : Topic.startsWide topic = false) :
    Recipient history topic ((replay history).recipient? topic) := by
  have compared (record : Subscription) (stands : standing? history record.topic = some record) :
      (Topic.covers record.topic topic).toOption = some true ↔
        topic.toList.head? ≠ some '$' ∧ Topic.Covers record.topic topic :=
    Topic.covers_iff (valid record (grant_of_standing stands)) name narrow
  have same : (replay history).records.find? (·.topic == topic) = standing? history topic :=
    get?_replay history topic
  unfold recipient?
  rw [same]
  cases absent : standing? history topic with
  | some record => exact Recipient.same absent
  | none =>
    rw [Option.none_or]
    by_cases dollar : topic.toList.head? = some '$'
    · have nothing : (replay history).records.find?
          (fun record => (Topic.covers record.topic topic).toOption == some true) = none := by
        rw [List.find?_eq_none]
        intro record member
        simp [compared record (mem_replay.mp member), dollar]
      rw [nothing]
      exact Recipient.reserved absent dollar
    · cases found : (replay history).records.find?
          (fun record => (Topic.covers record.topic topic).toOption == some true) with
      | none =>
        apply Recipient.nobody absent dollar
        intro other stands covers
        have uncovered := List.find?_eq_none.mp found other (mem_replay.mpr stands)
        simp [compared other stands, dollar, covers] at uncovered
      | some record =>
        have stands := mem_replay.mp (List.mem_of_find?_eq_some found)
        obtain ⟨i, entered⟩ := exists_enteredAt (Option.isSome_of_mem stands)
        obtain ⟨covered, early, late, parts, others⟩ := List.find?_eq_some_iff_append.mp found
        have covers := ((compared record stands).mp (by simpa using covered)).2
        apply Recipient.oldest absent dollar stands covers entered
        intro other j stands' covers' entered'
        have member := mem_replay.mpr stands'
        have ordered := List.pairwise_map.mp (ordered_replay history)
        rw [parts] at member ordered
        rcases List.mem_append.mp member with before | here
        · have uncovered := others other before
          simp [compared other stands', dollar, covers'] at uncovered
        · rcases List.mem_cons.mp here with rfl | after
          · exact (entered.unique entered').le
          · obtain ⟨k, l, first, second, earlier⟩ :=
              (List.pairwise_cons.mp (List.pairwise_append.mp ordered).2.1).1 other after
            rw [entered.unique first, entered'.unique second]
            exact earlier.le

/-- A message goes to the record that the history of the registry gives it. -/
theorem routing_iff_recipient
    (valid : ∀ record, Change.grant record ∈ history → Topic.isFilter record.topic = true)
    (name : Topic.isName topic = true) (narrow : Topic.startsWide topic = false)
    (found : Option Subscription) :
    (replay history).routing topic = .ok found ↔ Recipient history topic found := by
  have sound : (replay history).faultsOn topic = false := by simp [faultsOn, narrow]
  have recipient := recipient?_of_history valid name narrow
  rw [routing_eq, sound]
  constructor
  · rintro ⟨⟩
    exact recipient
  · intro given
    exact congrArg Except.ok (recipient.unique given)

def asking (topic : String) (qos : Qos) (handler : Callback) : Subscription :=
  { topic, qos, handler, onAck := none }

/-- A filter is given up and granted again, so that it comes in after two others, and one of those
is granted a second time for another handler. -/
def regrantedHistory : List Change :=
  [.grant (asking "a/#" .atMostOnce ⟨"first"⟩), .grant (asking "a/+" .atMostOnce ⟨"second"⟩),
    .grant (asking "a/b/#" .atMostOnce ⟨"third"⟩), .withdraw "a/#",
    .grant (asking "a/+" .atLeastOnce ⟨"fourth"⟩), .grant (asking "a/#" .atMostOnce ⟨"fifth"⟩),
    .grant (asking "+/c" .atMostOnce ⟨"sixth"⟩)]

theorem regrantedHistory_recipient :
    Recipient regrantedHistory "a/b" (some (asking "a/+" .atLeastOnce ⟨"fourth"⟩)) ∧
      Recipient regrantedHistory "a/b/d" (some (asking "a/b/#" .atMostOnce ⟨"third"⟩)) ∧
      Recipient regrantedHistory "a" (some (asking "a/#" .atMostOnce ⟨"fifth"⟩)) ∧
      Recipient regrantedHistory "b" none := by
  have valid : ∀ record, Change.grant record ∈ regrantedHistory →
      Topic.isFilter record.topic = true := by
    have checked : ∀ change ∈ regrantedHistory, Topic.isFilter change.topic = true := by
      decide +kernel
    exact fun record member => checked _ member
  have found (topic : String) (found : Option Subscription)
      (name : Topic.isName topic = true) (narrow : Topic.startsWide topic = false)
      (routed : (replay regrantedHistory).routing topic = .ok found) :
      Recipient regrantedHistory topic found :=
    (routing_iff_recipient valid name narrow found).mp routed
  exact ⟨found _ _ (by decide) (by decide) (by decide +kernel),
    found _ _ (by decide) (by decide) (by decide +kernel),
    found _ _ (by decide) (by decide) (by decide +kernel),
    found _ _ (by decide) (by decide) (by decide +kernel)⟩

end Registry

end DurableMqtt
