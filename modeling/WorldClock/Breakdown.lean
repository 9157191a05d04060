/-!
# Breakdowns

What can end the handling of a request without an answer: two computations that leave the range of
their results, and a text that cannot be written as an event. Whoever waits for the answer gets
none.
-/

namespace WorldClock

/-- Why there is no answer. -/
inductive Breakdown
  /-- A local time before the first or after the last that a calendar reading can have. -/
  | localTime
  /-- A sum of durations longer than the longest duration. -/
  | durationSum
  /-- A carriage return in the data of an event, with the number of bytes of its line before
  it. -/
  | carriageReturn (position : Nat)
deriving DecidableEq, Repr

end WorldClock
