import WorldClock.Text.Digits
import WorldClock.Time.Instant
/-!
# The numbers of a written time

What a written time says, number by number, before it is known whether there is such a time.
-/

namespace WorldClock

/-- The numbers of a written time. A number that is not written is 0. -/
structure Fields where
  year : Int := 0
  month : Nat := 0
  day : Nat := 0
  hour : Nat := 0
  minute : Nat := 0
  second : Nat := 0
  nanos : Nat := 0
deriving DecidableEq, Repr

namespace Fields

/-- The years that a time can be written in. -/
def YearInRange (year : Int) : Prop :=
  -262143 ≤ year ∧ year ≤ 262142

instance (year : Int) : Decidable (YearInRange year) :=
  inferInstanceAs (Decidable (_ ∧ _))

/-- The written second 60 is the leap second that follows the second 59. -/
def localTime? (fields : Fields) : Option LocalTime := do
  let date ← Date.ofFields? fields.year fields.month fields.day
  if h : YearInRange fields.year ∧ fields.hour ≤ 23 ∧ fields.minute ≤ 59 ∧ fields.second ≤ 60 ∧
      fields.nanos < 1000000000 then
    some {
      date
      secondOfDay := fields.hour * 3600 + fields.minute * 60 + min fields.second 59
      nanos := fields.nanos + (if fields.second = 60 then 1000000000 else 0)
      secondOfDay_lt := by omega
      nanos_lt := by split <;> omega }
  else none

end Fields

/-! ### Fractions of a second -/

/-- The nanoseconds of the digits after a decimal point. Digits after the ninth do not count. -/
def nanosOf (digits : List Char) : Nat :=
  Text.numberOf (digits.take 9) * Nat.pow 10 (9 - digits.length)

/-- Reads a decimal point and the digits after it, or nothing if no point comes first. -/
def readFraction : List Char → Option (Nat × List Char)
  | '.' :: cs => (Text.someDigits cs).map fun (digits, rest) => (nanosOf digits, rest)
  | cs => some (0, cs)

end WorldClock
