import DurableMqtt.Network.Client
import DurableMqtt.Proofs.Matching
import DurableMqtt.Session.Api

/-!
The grammar of topics.

A name holds no wildcard. In a filter each `#` is a level of its own, the last one, and each `+` is
a level of its own. The session and its engine check topics apart from each other, and filters may
as well be scanned by the number of bytes of their levels: all of them follow this grammar.
-/

namespace DurableMqtt

namespace Topic

/-- Every `#` stands alone in the last level, and every `+` alone in its level. -/
structure HasLoneWildcards (levels : List Level) : Prop where
  hash : ∀ front level rest, levels = front ++ level :: rest → '#' ∈ level →
    level = ['#'] ∧ rest = []
  plus : ∀ level ∈ levels, '+' ∈ level → level = ['+']

structure IsWellFormedName (topic : String) : Prop where
  inhabited : topic ≠ ""
  plain : '+' ∉ topic.toList ∧ '#' ∉ topic.toList

structure IsWellFormedFilter (filter : String) : Prop where
  inhabited : filter ≠ ""
  wildcards : HasLoneWildcards (filter.toList.splitOn '/')

def width (level : Level) : Nat := (level.map Char.utf8Size).sum

/-- The scan of a filter from its end, by the number of bytes of its levels. What takes one byte may
come last whatever it is, and earlier if it is not a `#`. -/
def passesScan (filter : String) : Bool :=
  match (filter.toList.splitOn '/').reverse with
  | [] => false
  | last :: earlier =>
    !filter.isEmpty && (width last == 1 || !(last.contains '#' || last.contains '+')) &&
      earlier.all fun level => !level.contains '#' && (width level ≤ 1 || !level.contains '+')

/-- Whether text can be written as a topic: two bytes tell its length, and it holds no null
character. -/
def isEncodable (topic : String) : Bool :=
  topic.utf8ByteSize ≤ 65535 && !topic.toList.contains '\x00'

variable {level : Level} {levels : List Level}

/-! ### Levels -/

theorem isLastLevel_iff :
    isLastLevel level = true ↔
      ('#' ∈ level → level = ['#']) ∧ ('+' ∈ level → level = ['+']) := by
  unfold isLastLevel isPlainLevel
  by_cases hash : level = ['#']
  · simp [hash]
  · by_cases plus : level = ['+']
    · simp [plus]
    · simp [hash, plus, and_comm]

theorem isInnerLevel_iff :
    isInnerLevel level = true ↔ '#' ∉ level ∧ ('+' ∈ level → level = ['+']) := by
  unfold isInnerLevel
  by_cases plus : level = ['+']
  · simp [plus]
  · simp [plus]

theorem hasLoneWildcards_nil : HasLoneWildcards [] where
  hash front level rest parts := by simp at parts
  plus level member := absurd member List.not_mem_nil

theorem hasLoneWildcards_single :
    HasLoneWildcards [level] ↔ isLastLevel level = true := by
  rw [isLastLevel_iff]
  constructor
  · intro lone
    exact ⟨fun inside => (lone.hash [] level [] rfl inside).1,
      lone.plus level (List.mem_singleton_self level)⟩
  · rintro ⟨hash, plus⟩
    constructor
    case hash =>
      intro front other rest parts inside
      obtain ⟨rfl, same⟩ := List.append_eq_singleton_iff.mp parts.symm |>.resolve_right (by simp)
      obtain ⟨rfl, rfl⟩ := List.cons.inj same
      exact ⟨hash inside, rfl⟩
    case plus =>
      intro other member
      rw [List.mem_singleton.mp member]
      exact plus

theorem hasLoneWildcards_cons {next : Level} :
    HasLoneWildcards (level :: next :: levels) ↔
      isInnerLevel level = true ∧ HasLoneWildcards (next :: levels) := by
  rw [isInnerLevel_iff]
  constructor
  · intro lone
    refine ⟨⟨fun inside => ?_, lone.plus level List.mem_cons_self⟩, ?_, ?_⟩
    · exact List.cons_ne_nil _ _ (lone.hash [] level (next :: levels) rfl inside).2
    · intro front other rest parts
      exact lone.hash (level :: front) other rest (by rw [parts, List.cons_append])
    · exact fun other member => lone.plus other (List.mem_cons_of_mem level member)
  · rintro ⟨⟨unhashed, plus⟩, lone⟩
    constructor
    case hash =>
      intro front other rest parts inside
      cases front with
      | nil =>
        obtain ⟨rfl, -⟩ := List.cons.inj parts
        exact absurd inside unhashed
      | cons first front => exact lone.hash front other rest (List.cons.inj parts).2 inside
    case plus => exact List.forall_mem_cons.mpr ⟨plus, lone.plus⟩

theorem areFilterLevels_iff (levels : List Level) :
    areFilterLevels levels = true ↔ HasLoneWildcards levels := by
  induction levels with
  | nil => exact iff_of_true rfl hasLoneWildcards_nil
  | cons level rest ih =>
    cases rest with
    | nil => exact hasLoneWildcards_single.symm
    | cons next rest =>
      rw [hasLoneWildcards_cons, ← ih, areFilterLevels, Bool.and_eq_true]
      exact List.cons_ne_nil _ _

/-! ### Names and filters -/

theorem isName_iff (topic : String) : isName topic = true ↔ IsWellFormedName topic := by
  have whole : IsWellFormedName topic ↔ topic ≠ "" ∧ '+' ∉ topic.toList ∧ '#' ∉ topic.toList :=
    ⟨fun ⟨inhabited, plain⟩ => ⟨inhabited, plain⟩, fun ⟨inhabited, plain⟩ => ⟨inhabited, plain⟩⟩
  rw [whole]
  simp [isName, and_assoc]

theorem isFilter_iff (filter : String) : isFilter filter = true ↔ IsWellFormedFilter filter := by
  have whole : IsWellFormedFilter filter ↔
      filter ≠ "" ∧ HasLoneWildcards (filter.toList.splitOn '/') :=
    ⟨fun ⟨inhabited, lone⟩ => ⟨inhabited, lone⟩, fun ⟨inhabited, lone⟩ => ⟨inhabited, lone⟩⟩
  rw [whole, ← areFilterLevels_iff, ← levelsOf_eq]
  simp [isFilter, levels]

/-! ### The scan by bytes -/

theorem width_le_one_iff {c : Char} (inside : c ∈ level) (narrow : c.utf8Size = 1) :
    width level ≤ 1 ↔ level = [c] := by
  constructor
  · intro one
    match level with
    | [] => cases inside
    | [d] => rw [List.mem_singleton.mp inside]
    | d :: e :: rest =>
      have first := d.utf8Size_pos
      have second := e.utf8Size_pos
      simp only [width, List.map_cons, List.sum_cons] at one
      omega
  · rintro rfl
    simp [width, narrow]

theorem width_pos {c : Char} (inside : c ∈ level) : 0 < width level := by
  have part : c.utf8Size ≤ width level :=
    List.single_le_sum (fun _ _ => Nat.zero_le _) _ (List.mem_map_of_mem inside)
  exact c.utf8Size_pos.trans_le part

theorem isInnerLevel_eq (level : Level) :
    isInnerLevel level = (!level.contains '#' && (width level ≤ 1 || !level.contains '+')) := by
  rw [Bool.eq_iff_iff, isInnerLevel_iff]
  by_cases plus : '+' ∈ level
  · simp [plus, width_le_one_iff plus rfl]
  · simp [plus]

theorem isLastLevel_eq (level : Level) :
    isLastLevel level = (width level == 1 || !(level.contains '#' || level.contains '+')) := by
  have alone {c : Char} (inside : c ∈ level) (narrow : c.utf8Size = 1) :
      width level = 1 ↔ level = [c] := by
    rw [← width_le_one_iff inside narrow]
    have := width_pos inside
    omega
  rw [Bool.eq_iff_iff, isLastLevel_iff]
  by_cases hash : '#' ∈ level
  · by_cases plus : '+' ∈ level
    · simp [hash, plus, ← alone hash rfl, ← alone plus rfl]
    · simp [hash, plus, ← alone hash rfl]
  · by_cases plus : '+' ∈ level
    · simp [hash, plus, ← alone plus rfl]
    · simp [hash, plus]

theorem areFilterLevels_concat (earlier : List Level) (last : Level) :
    areFilterLevels (earlier ++ [last]) = (earlier.all isInnerLevel && isLastLevel last) := by
  induction earlier with
  | nil => rfl
  | cons level rest ih =>
    rw [List.cons_append, areFilterLevels, ih, List.all_cons, Bool.and_assoc]
    exact List.append_ne_nil_of_right_ne_nil rest (List.cons_ne_nil last [])

/-- Counting bytes comes to the same as reading the levels. -/
theorem passesScan_eq (filter : String) : passesScan filter = isFilter filter := by
  unfold passesScan isFilter levels
  rw [levelsOf_eq]
  cases parts : (filter.toList.splitOn '/').reverse with
  | nil => exact absurd (List.reverse_eq_nil_iff.mp parts) (List.splitOn_ne_nil '/' filter.toList)
  | cons last earlier =>
    have whole : filter.toList.splitOn '/' = earlier.reverse ++ [last] := by
      rw [← List.reverse_reverse (filter.toList.splitOn '/'), parts, List.reverse_cons]
    rw [whole, areFilterLevels_concat, isLastLevel_eq, List.all_reverse,
      Bool.and_comm (earlier.all isInnerLevel), ← Bool.and_assoc]
    simp only [funext isInnerLevel_eq]

/-- A level of one letter that takes two bytes is no wildcard, and is not mistaken for one. -/
example : isFilter "+//é/#" = true ∧ isFilter "é+/a" = false := by decide +kernel

end Topic

/-! ### Requests and calls -/

/-- A message goes to a name, everything else is about a filter. -/
def Request.IsWellFormed (r : Request) : Prop :=
  match r.action with
  | .publish .. => Topic.IsWellFormedName r.topic
  | .subscribe .. | .unsubscribe => Topic.IsWellFormedFilter r.topic

theorem Request.hasValidTopic_iff (r : Request) : r.hasValidTopic = true ↔ r.IsWellFormed := by
  unfold hasValidTopic IsWellFormed
  cases r.action with
  | publish payload qos retain => exact Topic.isName_iff r.topic
  | subscribe qos handler => exact Topic.isFilter_iff r.topic
  | unsubscribe => exact Topic.isFilter_iff r.topic

theorem Network.Client.hasWritableTopic_call (r : Request) :
    hasWritableTopic r.call = r.hasValidTopic := by
  unfold Request.call Request.hasValidTopic
  cases r.action <;> rfl

end DurableMqtt
