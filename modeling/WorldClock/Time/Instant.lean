import WorldClock.Time.Calendar
/-!
# Instants and local times

An instant is a second of the time line with a fraction; a local time is what a calendar and a
wall clock show, without saying where. Both may lie inside a leap second, which is counted as a
second fraction of 10⁹ nanoseconds or more.
-/

namespace WorldClock

/-! ### The range of time -/

/-- The seconds from the start of 1970 to the first second of the year -262143. -/
def firstSecond : Int := -8334601228800

/-- The seconds from the start of 1970 to the last second of the year 262142. -/
def lastSecond : Int := 8210266876799

theorem firstSecond_eq : firstSecond = dayNumber (-262143) 1 1 * 86400 := by decide

theorem lastSecond_eq : lastSecond = dayNumber 262143 1 1 * 86400 - 1 := by decide

/-- A second of the representable range. -/
def InRange (second : Int) : Prop :=
  firstSecond ≤ second ∧ second ≤ lastSecond

instance (second : Int) : Decidable (InRange second) :=
  inferInstanceAs (Decidable (_ ∧ _))

/-! ### Instants -/

/-- A point in time: whole seconds since the start of 1970 in UTC, and nanoseconds. Inside a leap
second the seconds stand still and the nanoseconds run from 10⁹ to 2 · 10⁹. -/
@[ext]
structure Instant where
  seconds : Int
  nanos : Nat
  inRange : InRange seconds
  nanos_lt : nanos < 2000000000
deriving DecidableEq

namespace Instant

/-- The instant with these seconds and nanoseconds, if there is one. -/
def of? (seconds : Int) (nanos : Nat) : Option Instant :=
  if h : InRange seconds ∧ nanos < 2000000000 then some ⟨seconds, nanos, h.1, h.2⟩ else none

/-- The order of time. -/
def before (a b : Instant) : Bool :=
  a.seconds < b.seconds || (a.seconds == b.seconds && a.nanos < b.nanos)

/-- The later of two instants. -/
def latest (a b : Instant) : Instant :=
  if a.before b then b else a

end Instant

/-! ### Local times -/

/-- A reading of a calendar and a wall clock. -/
@[ext]
structure LocalTime where
  date : Date
  secondOfDay : Nat
  nanos : Nat
  secondOfDay_lt : secondOfDay < 86400
  nanos_lt : nanos < 2000000000
deriving DecidableEq

namespace LocalTime

/-- The seconds that a clock shows since the start of 1970. -/
def second (time : LocalTime) : Int :=
  time.date.dayNumber * 86400 + time.secondOfDay

/-- The reading that lies a number of seconds after the start of 1970. -/
def ofSecond (second : Int) (nanos : Nat) (h : nanos < 2000000000) : LocalTime where
  date := Date.ofDayNumber (second / 86400)
  secondOfDay := (second % 86400).toNat
  nanos := nanos
  secondOfDay_lt := by omega
  nanos_lt := h

@[simp]
theorem second_ofSecond (second : Int) (nanos : Nat) (h : nanos < 2000000000) :
    (ofSecond second nanos h).second = second := by
  simp only [LocalTime.second, ofSecond, Date.dayNumber_ofDayNumber]
  omega

@[simp]
theorem ofSecond_second (time : LocalTime) :
    ofSecond time.second time.nanos time.nanos_lt = time := by
  have hlt := time.secondOfDay_lt
  have hday : time.second / 86400 = time.date.dayNumber := by
    unfold second; omega
  have hsecond : (time.second % 86400).toNat = time.secondOfDay := by
    unfold second; omega
  ext : 1
  · simp [ofSecond, hday]
  · simpa [ofSecond] using hsecond
  · rfl

/-- The hour that the clock shows. -/
def hour (time : LocalTime) : Nat :=
  time.secondOfDay / 3600

/-- The minute that the clock shows. -/
def minute (time : LocalTime) : Nat :=
  time.secondOfDay / 60 % 60

/-- The second that the clock shows: one more inside a leap second. -/
def shownSecond (time : LocalTime) : Nat :=
  time.secondOfDay % 60 + time.nanos / 1000000000

end LocalTime

/-- What a clock shows at an instant, a number of seconds ahead of UTC. -/
def Instant.localTime (instant : Instant) (offset : Int) : LocalTime :=
  LocalTime.ofSecond (instant.seconds + offset) instant.nanos instant.nanos_lt

end WorldClock
