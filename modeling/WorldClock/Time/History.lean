import WorldClock.Time.Instant
/-!
# Offset histories

The offsets from UTC that a place has had: one in force from the beginning of time, and then a new
one at each of a list of transitions. Long stretches of a history follow yearly rules; a chapter of
a history is a single transition or such a stretch.

A history is regular (`followRegularly`): offsets are shorter than a day, transitions lie apart and
inside the range of time, and clocks that run whole minutes ahead change at a whole minute.
`History.offsetAt` reads the offset at a second of UTC.
-/

namespace WorldClock

/-- A moment, in seconds of UTC, from which a new offset is in force. -/
structure Transition where
  start : Int
  offset : Int
deriving DecidableEq, Repr

/-- A transition that returns every year: on the first weekday of a kind on or after a day of a
month, a number of seconds after midnight in UTC. -/
structure YearlyRule where
  month : Nat
  weekday : Weekday
  day : Nat
  second : Int
  offset : Int
deriving DecidableEq, Repr

/-- The transition of a rule in a year. -/
def YearlyRule.inYear (rule : YearlyRule) (year : Int) : Transition where
  start := rule.weekday.onOrAfter (dayNumber year rule.month rule.day) * 86400 + rule.second
  offset := rule.offset

/-- A part of a history. -/
inductive Chapter
  /-- A single transition. -/
  | once (start offset : Int)
  /-- The transitions of some rules in each of a number of years, in the order of the rules. -/
  | yearly (first : Int) (years : Nat) (rules : List YearlyRule)
deriving Repr

/-- The transitions of a part of a history. -/
def Chapter.transitions : Chapter → List Transition
  | once start offset => [⟨start, offset⟩]
  | yearly first years rules =>
    (List.range years).flatMap fun n => rules.map (·.inYear (first + n))

/-! ### Regular offsets -/

/-- The longest time by which two offsets can differ. -/
def twoDays : Int := 172800

/-- Whether an offset is shorter than a day. -/
def isShortOffset (offset : Int) : Bool :=
  -86400 < offset && offset < 86400

/-- Whether a transition can end the time of an offset. It is far from both ends of time, and an
offset of whole minutes ends at a whole minute. -/
def Transition.canFollow (transition : Transition) (offset : Int) : Bool :=
  firstSecond + twoDays ≤ transition.start && transition.start ≤ lastSecond - twoDays &&
    (offset % 60 != 0 || transition.start % 60 == 0)

/-- Whether there is room between a transition that ends the time of an offset and the next
transition. What clocks show around the one, by the old offset or the new one, they do not show
again after the other. -/
def Transition.leavesRoom (transition : Transition) (offset : Int) (next : Transition) : Bool :=
  [offset, transition.offset].all fun before =>
    [transition.offset, next.offset].all fun after =>
      transition.start + before ≤ next.start + after

/-- Whether offsets follow one another as those of a place do: one offset first, and then those of
some transitions. -/
def followRegularly (offset : Int) : List Transition → Bool
  | [] => isShortOffset offset
  | next :: rest =>
    isShortOffset offset && next.canFollow offset && rest.head?.all (next.leavesRoom offset) &&
      followRegularly next.offset rest

/-! ### Histories -/

/-- The offsets of a place, in seconds ahead of UTC. -/
structure History where
  initial : Int
  chapters : List Chapter
  regular : followRegularly initial (chapters.flatMap Chapter.transitions) = true := by
    decide +kernel
deriving Repr

namespace History

/-- A history with one offset for all time. -/
def constant (offset : Int) (h : isShortOffset offset = true := by decide) : History :=
  ⟨offset, [], h⟩

/-- The transitions of a history in the order of time. -/
def transitions (history : History) : List Transition :=
  history.chapters.flatMap Chapter.transitions

/-- The offset in force at a second of UTC, of a place with a present offset and some transitions
to come. -/
def offsetAfter (offset : Int) : List Transition → Int → Int
  | [], _ => offset
  | next :: rest, second =>
    if second < next.start then offset else offsetAfter next.offset rest second

/-- The offset in force at a second of UTC. -/
def offsetAt (history : History) (second : Int) : Int :=
  offsetAfter history.initial history.transitions second

end History

end WorldClock
