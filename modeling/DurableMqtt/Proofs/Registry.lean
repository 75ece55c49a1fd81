import Mathlib
import DurableMqtt.Registry

/-!
The registry as the outcome of its history.

A history is the list of the changes that were made, oldest first. A topic has a record just if its
latest change granted one, and it is that one. The records stand in the order in which their topics
came in: a grant for a topic that has a record takes its place, and one for a topic without goes to
the end.
-/

namespace DurableMqtt.Registry

inductive Change where
  | grant (record : Subscription)
  | withdraw (topic : String)
deriving DecidableEq

namespace Change

def topic : Change → String
  | grant record => record.topic
  | withdraw topic => topic

def record? : Change → Option Subscription
  | grant record => some record
  | withdraw _ => none

end Change

def apply (r : Registry) : Change → Registry
  | .grant record => r.add record
  | .withdraw topic => r.remove topic

def replay (history : List Change) : Registry := history.foldl apply {}

/-- The record that the latest change of a topic leaves it with. -/
def standing? (history : List Change) (topic : String) : Option Subscription :=
  (history.filter (·.topic == topic)).getLast?.bind Change.record?

/-- The first grant of a topic since the topic was last without a record. -/
structure EnteredAt (history : List Change) (topic : String) (i : Nat) : Prop where
  granted : ∃ record, history[i]? = some (.grant record) ∧ record.topic = topic
  absent : standing? (history.take i) topic = none
  present : ∀ j, i < j → j ≤ history.length → (standing? (history.take j) topic).isSome

variable {history : List Change} {change : Change} {record s : Subscription} {topic : String}
  {r : Registry} {i j : Nat}

/-! ### One change -/

theorem find?_place (s : Subscription) (records : List Subscription) (topic : String) :
    (place s records).find? (·.topic == topic) =
      if s.topic = topic then some s else records.find? (·.topic == topic) := by
  induction records with
  | nil =>
    by_cases here : s.topic = topic
    · simp [place, here]
    · simp [place, here]
  | cons first rest ih =>
    unfold place
    by_cases here : s.topic = topic
    · split
      next => simp [here]
      next other => simp [here ▸ other, ih, here]
    · split
      next same => simp [same, here]
      next => rw [List.find?_cons, ih, if_neg here, List.find?_cons]

theorem get?_apply (r : Registry) (change : Change) (topic : String) :
    (r.apply change).get? topic =
      if change.topic = topic then change.record? else r.get? topic := by
  cases change with
  | grant record => exact find?_place record r.records topic
  | withdraw gone =>
    change (r.records.filter (·.topic != gone)).find? (·.topic == topic) =
      if gone = topic then none else r.records.find? (·.topic == topic)
    rw [List.find?_filter]
    split
    next same =>
      rw [List.find?_eq_none]
      simp [same]
    next other =>
      apply congrArg (r.records.find? ·)
      funext record
      by_cases here : record.topic = topic
      · simp [here, Ne.symm other]
      · simp [here]

theorem topics_place (s : Subscription) (records : List Subscription) :
    (place s records).map (·.topic) =
      if s.topic ∈ records.map (·.topic) then records.map (·.topic)
      else records.map (·.topic) ++ [s.topic] := by
  induction records with
  | nil => rfl
  | cons first rest ih =>
    unfold place
    by_cases same : first.topic = s.topic
    · simp [same]
    · rw [if_neg same, List.map_cons, ih, List.map_cons]
      by_cases there : s.topic ∈ rest.map (·.topic)
      · rw [if_pos there, if_pos (List.mem_cons_of_mem _ there)]
      · have absent : s.topic ∉ first.topic :: rest.map (·.topic) := by
          rw [List.mem_cons]
          exact not_or.mpr ⟨Ne.symm same, there⟩
        rw [if_neg there, if_neg absent, List.cons_append]

theorem topics_add (r : Registry) (s : Subscription) :
    (r.add s).topics = if s.topic ∈ r.topics then r.topics else r.topics ++ [s.topic] :=
  topics_place s r.records

theorem topics_remove (r : Registry) (topic : String) :
    (r.remove topic).topics = r.topics.filter (· != topic) := by
  unfold remove topics
  rw [List.filter_map]
  rfl

theorem mem_topics : topic ∈ r.topics ↔ (r.get? topic).isSome := by
  unfold topics get?
  rw [List.find?_isSome, List.mem_map]
  simp

theorem nodup_apply (once : r.topics.Nodup) (change : Change) : (r.apply change).topics.Nodup := by
  cases change with
  | grant record =>
    change (r.add record).topics.Nodup
    rw [topics_add]
    split
    next => exact once
    next absent =>
      rw [← List.concat_eq_append]
      exact once.concat absent
  | withdraw topic =>
    change (r.remove topic).topics.Nodup
    rw [topics_remove]
    exact once.filter _

theorem mem_records (once : r.topics.Nodup) :
    record ∈ r.records ↔ r.get? record.topic = some record := by
  unfold topics at once
  constructor
  · intro member
    obtain ⟨other, found⟩ := Option.isSome_iff_exists.mp
      (mem_topics.mp (List.mem_map_of_mem member : record.topic ∈ r.topics))
    have named : other.topic = record.topic := by simpa using List.find?_some found
    rw [found, List.inj_on_of_nodup_map once (List.mem_of_find?_eq_some found) member named]
  · exact List.mem_of_find?_eq_some

/-! ### Histories -/

theorem replay_concat (history : List Change) (change : Change) :
    replay (history ++ [change]) = (replay history).apply change := by
  unfold replay
  rw [List.foldl_append, List.foldl_cons, List.foldl_nil]

theorem standing?_concat (history : List Change) (change : Change) (topic : String) :
    standing? (history ++ [change]) topic =
      if change.topic = topic then change.record? else standing? history topic := by
  unfold standing?
  by_cases same : change.topic = topic
  · simp [List.filter_append, same]
  · simp [List.filter_append, same]

theorem standing?_eq_some : standing? history topic = some record ↔
    (history.filter (·.topic == topic)).getLast? = some (.grant record) := by
  unfold standing?
  cases (history.filter (·.topic == topic)).getLast? with
  | none => simp
  | some change => cases change <;> simp [Change.record?]

theorem get?_replay (history : List Change) (topic : String) :
    (replay history).get? topic = standing? history topic := by
  induction history using List.reverseRecOn with
  | nil => rfl
  | append_singleton history change ih =>
    rw [replay_concat, get?_apply, standing?_concat, ih]

theorem nodup_replay (history : List Change) : (replay history).topics.Nodup := by
  induction history using List.reverseRecOn with
  | nil => exact List.nodup_nil
  | append_singleton history change ih =>
    rw [replay_concat]
    exact nodup_apply ih change

theorem mem_topics_replay : topic ∈ (replay history).topics ↔ (standing? history topic).isSome := by
  rw [mem_topics, get?_replay]

theorem mem_replay : record ∈ (replay history).records ↔
    standing? history record.topic = some record := by
  rw [mem_records (nodup_replay history), get?_replay]

/-! ### Order -/

namespace EnteredAt

theorem lt_length (entered : EnteredAt history topic i) : i < history.length := by
  obtain ⟨record, here, -⟩ := entered.granted
  exact (List.getElem?_eq_some_iff.mp here).1

theorem not_lt (first : EnteredAt history topic i) (second : EnteredAt history topic j) :
    ¬ i < j := by
  intro earlier
  have present := first.present j earlier second.lt_length.le
  rw [second.absent] at present
  cases present

theorem unique (first : EnteredAt history topic i) (second : EnteredAt history topic j) :
    i = j := by
  have := first.not_lt second
  have := second.not_lt first
  omega

theorem topic_eq {other : String} (first : EnteredAt history topic i)
    (second : EnteredAt history other i) : topic = other := by
  obtain ⟨record, here, rfl⟩ := first.granted
  obtain ⟨same, there, rfl⟩ := second.granted
  cases here.symm.trans there
  rfl

theorem concat (entered : EnteredAt history topic i)
    (still : (standing? (history ++ [change]) topic).isSome) :
    EnteredAt (history ++ [change]) topic i := by
  have bound := entered.lt_length
  constructor
  · obtain ⟨record, here, named⟩ := entered.granted
    exact ⟨record, by rw [List.getElem?_append_left bound, here], named⟩
  · rw [List.take_append_of_le_length bound.le]
    exact entered.absent
  · intro j later within
    rw [List.length_append, List.length_singleton] at within
    by_cases old : j ≤ history.length
    · rw [List.take_append_of_le_length old]
      exact entered.present j later old
    · rw [List.take_of_length_le (by rw [List.length_append, List.length_singleton]; omega)]
      exact still

theorem last (absent : standing? history record.topic = none) :
    EnteredAt (history ++ [.grant record]) record.topic history.length := by
  constructor
  · exact ⟨record, List.getElem?_concat_length, rfl⟩
  · rw [List.take_left]
    exact absent
  · intro j later within
    rw [List.take_of_length_le (by rw [List.length_append, List.length_singleton]; omega),
      standing?_concat]
    simp [Change.topic, Change.record?]

end EnteredAt

theorem exists_enteredAt (stands : (standing? history topic).isSome) :
    ∃ i, EnteredAt history topic i := by
  induction history using List.reverseRecOn with
  | nil => cases stands
  | append_singleton history change ih =>
    cases before : standing? history topic with
    | some record =>
      obtain ⟨i, entered⟩ := ih (by rw [before, Option.isSome_some])
      exact ⟨i, entered.concat stands⟩
    | none =>
      rw [standing?_concat, before] at stands
      split at stands
      next same =>
        subst same
        cases change with
        | grant record => exact ⟨history.length, .last before⟩
        | withdraw topic => cases stands
      next => cases stands

theorem ordered_concat {topics : List String}
    (ordered : topics.Pairwise fun a b =>
      ∃ i j, EnteredAt history a i ∧ EnteredAt history b j ∧ i < j)
    (still : ∀ topic ∈ topics, (standing? (history ++ [change]) topic).isSome) :
    topics.Pairwise fun a b => ∃ i j, EnteredAt (history ++ [change]) a i ∧
      EnteredAt (history ++ [change]) b j ∧ i < j := by
  apply ordered.imp_of_mem
  rintro a b first second ⟨i, j, enteredFirst, enteredSecond, earlier⟩
  exact ⟨i, j, enteredFirst.concat (still a first), enteredSecond.concat (still b second), earlier⟩

/-- The topics stand in the order in which they came in. -/
theorem ordered_replay (history : List Change) :
    (replay history).topics.Pairwise fun a b =>
      ∃ i j, EnteredAt history a i ∧ EnteredAt history b j ∧ i < j := by
  induction history using List.reverseRecOn with
  | nil => exact List.Pairwise.nil
  | append_singleton history change ih =>
    have still (topic : String) (member : topic ∈ (replay (history ++ [change])).topics) :
        (standing? (history ++ [change]) topic).isSome := mem_topics_replay.mp member
    rw [replay_concat] at still ⊢
    cases change with
    | withdraw gone =>
      change (((replay history).remove gone).topics).Pairwise _
      change ∀ topic ∈ ((replay history).remove gone).topics, _ at still
      rw [topics_remove] at still ⊢
      exact ordered_concat (ih.filter _) still
    | grant record =>
      change (((replay history).add record).topics).Pairwise _
      change ∀ topic ∈ ((replay history).add record).topics, _ at still
      rw [topics_add] at still ⊢
      split at still
      next there =>
        rw [if_pos there]
        exact ordered_concat ih still
      next absent =>
        rw [if_neg absent, List.pairwise_append]
        refine ⟨ordered_concat ih fun topic member => still topic (by simp [member]),
          List.pairwise_singleton _ _, ?_⟩
        intro topic member other here
        rw [List.mem_singleton.mp here]
        obtain ⟨i, entered⟩ := exists_enteredAt (mem_topics_replay.mp member)
        have out : standing? history record.topic = none := by
          simpa [mem_topics_replay] using absent
        exact ⟨i, history.length, entered.concat (still topic (by simp [member])), .last out,
          entered.lt_length⟩

/-- A registry that is the outcome of a history. -/
structure Follows (r : Registry) (history : List Change) : Prop where
  replays : r = replay history
  distinct : r.topics.Nodup
  /-- The latest change of a topic tells whether it has a record, and which. -/
  latest : ∀ topic record, r.get? topic = some record ↔
    (history.filter (·.topic == topic)).getLast? = some (.grant record)
  /-- Topics stand in the order of their first grants since they were last without a record. -/
  ordered : r.topics.Pairwise fun a b =>
    ∃ i j, EnteredAt history a i ∧ EnteredAt history b j ∧ i < j

theorem replay_follows (history : List Change) : (replay history).Follows history where
  replays := rfl
  distinct := nodup_replay history
  latest topic record := by rw [get?_replay, standing?_eq_some]
  ordered := ordered_replay history

end DurableMqtt.Registry
