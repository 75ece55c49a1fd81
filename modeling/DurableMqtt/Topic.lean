/-!
Topic names and topic filters. A name is what a message is published on and holds no wildcard;
a filter is what a subscription asks for, where `+` stands for one level and `#` for all the
levels that are left.

Text is cut into levels at each slash, so `a//b` has three levels and the empty text has one.
-/

namespace DurableMqtt.Topic

abbrev Level := List Char

def levelsOf : List Char → List Level
  | [] => [[]]
  | c :: rest =>
    if c = '/' then [] :: levelsOf rest
    else
      match levelsOf rest with
      | [] => [[c]]
      | level :: more => (c :: level) :: more

theorem levelsOf_ne_nil (text : List Char) : levelsOf text ≠ [] := by
  cases text with
  | nil => simp [levelsOf]
  | cons c rest =>
    simp only [levelsOf]
    split
    · simp
    · split <;> simp

def levels (topic : String) : List Level := levelsOf topic.toList

def isPlainLevel (level : Level) : Bool :=
  !level.contains '+' && !level.contains '#'

/-- Whether a level may stand before the last one of a filter: `+` only alone, `#` never. -/
def isInnerLevel (level : Level) : Bool :=
  !level.contains '#' && (level == ['+'] || !level.contains '+')

/-- Whether a level may stand last in a filter: either wildcard, but only alone. -/
def isLastLevel (level : Level) : Bool :=
  level == ['+'] || level == ['#'] || isPlainLevel level

def areFilterLevels : List Level → Bool
  | [] => true
  | [last] => isLastLevel last
  | level :: rest => isInnerLevel level && areFilterLevels rest

def isName (topic : String) : Bool :=
  !topic.isEmpty && !topic.toList.contains '+' && !topic.toList.contains '#'

def isFilter (filter : String) : Bool :=
  !filter.isEmpty && areFilterLevels (levels filter)

/-- Whether filter levels cover topic levels. A topic level that is a bare `#` is covered by
no level but `#` itself. -/
def levelsCover : List Level → List Level → Bool
  | [], topic => topic.isEmpty
  | ['#'] :: _, _ => true
  | _ :: _, [] => false
  | f :: filter, t :: topic =>
    if t = ['#'] then false
    else if f = ['+'] || f = t then levelsCover filter topic
    else false

inductive Fault where
  /-- The comparison looks at the first byte of the topic as a character of its own. -/
  | wideFirstCharacter
deriving DecidableEq

/-- Whether `filter` covers `topic`. Topics that start with a dollar sign are reserved and
covered by no filter. The comparison faults on a topic whose first character takes more than
one byte. -/
def covers (filter topic : String) : Except Fault Bool :=
  match topic.toList with
  | [] => .ok (levelsCover (levels filter) (levels topic))
  | c :: _ =>
    if 1 < c.utf8Size then .error .wideFirstCharacter
    else if c = '$' then .ok false
    else .ok (levelsCover (levels filter) (levels topic))

end DurableMqtt.Topic
