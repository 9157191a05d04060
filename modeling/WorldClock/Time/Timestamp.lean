import WorldClock.Breakdown
import WorldClock.Time.Fields
import WorldClock.Time.Zone.Basic
/-!
# Timestamps

The RFC 3339 form of an instant: a local time together with the offset from UTC of the place it
belongs to, such as `2025-01-15T14:00:00+01:00`. Reading gives back the instant. Writing drops the
fraction of the second and shows the offset in whole minutes.
-/

namespace WorldClock

open Text

/-! ### Reading -/

/-- Reads an offset from UTC in seconds: `Z`, or a sign, hours and minutes. -/
def readOffset : List Char → Option (Int × List Char)
  | [] => none
  | c :: cs =>
    if c = 'Z' ∨ c = 'z' then some (0, cs)
    else if c = '+' ∨ c = '-' ∨ c = '\u2212' then do
      let (hours, cs) ← exactDigits 2 cs
      let cs ← mark ':' cs
      let (minutes, cs) ← exactDigits 2 cs
      guard (hours ≤ 23 ∧ minutes ≤ 59)
      let seconds : Int := hours * 3600 + minutes * 60
      some (if c = '+' then seconds else -seconds, cs)
    else none

/-- Reads the mark between the date and the time of day. -/
def readDateEnd : List Char → Option (List Char)
  | [] => none
  | c :: cs => if c = 'T' ∨ c = 't' ∨ c = ' ' then some cs else none

/-- Reads a local time of fixed width, with a fraction of any length. -/
def readStampFields (cs : List Char) : Option (Fields × List Char) := do
  let (year, cs) ← exactDigits 4 cs
  let cs ← mark '-' cs
  let (month, cs) ← exactDigits 2 cs
  let cs ← mark '-' cs
  let (day, cs) ← exactDigits 2 cs
  let cs ← readDateEnd cs
  let (hour, cs) ← exactDigits 2 cs
  let cs ← mark ':' cs
  let (minute, cs) ← exactDigits 2 cs
  let cs ← mark ':' cs
  let (second, cs) ← exactDigits 2 cs
  let (nanos, cs) ← readFraction cs
  some (⟨year, month, day, hour, minute, second, nanos⟩, cs)

/-- The instant that a whole text denotes as a timestamp. -/
def Instant.ofTimestamp? (cs : List Char) : Option Instant := do
  let (fields, cs) ← readStampFields cs
  let (offset, cs) ← readOffset cs
  guard cs.isEmpty
  let time ← fields.localTime?
  Instant.of? (time.second - offset) time.nanos

/-! ### Writing -/

/-- Years from 0 to 9999 have four digits, others a sign and at least four. -/
def yearText (year : Int) : List Char :=
  if 0 ≤ year ∧ year ≤ 9999 then padded 4 year.toNat
  else (if year < 0 then '-' else '+') :: padded 4 year.natAbs

/-- The text of a local time in whole seconds. -/
def LocalTime.text (time : LocalTime) : List Char :=
  yearText time.date.year ++ '-' :: padded 2 time.date.month ++ '-' :: padded 2 time.date.day ++
    'T' :: padded 2 time.hour ++ ':' :: padded 2 time.minute ++ ':' :: padded 2 time.shownSecond

/-- The text of an offset, rounded to the nearest minute away from a half. -/
def offsetText (offset : Int) : List Char :=
  let minutes := (offset.natAbs + 30) / 60
  (if offset < 0 then '-' else '+') :: padded 2 (minutes / 60) ++ ':' :: padded 2 (minutes % 60)

/-- The offset of a zone at an instant. -/
def Zone.offsetAt (zone : Zone) (instant : Instant) : Int :=
  zone.history.offsetAt instant.seconds

/-- What clocks show in a zone at an instant. -/
def Zone.localTime (zone : Zone) (instant : Instant) : LocalTime :=
  instant.localTime (zone.offsetAt instant)

/-- The timestamp of an instant in a zone. A local time outside the representable range has
none. -/
def Instant.timestamp (instant : Instant) (zone : Zone) : Except Breakdown String :=
  if InRange (zone.localTime instant).second then
    .ok (String.ofList ((zone.localTime instant).text ++ offsetText (zone.offsetAt instant)))
  else .error .localTime

/-- The text of the offset of a zone at an instant. -/
def Instant.offsetText (instant : Instant) (zone : Zone) : String :=
  String.ofList (WorldClock.offsetText (zone.offsetAt instant))

/-- The timestamp of an instant in UTC, with the letter `Z` in place of the offset. -/
def Instant.utcTimestamp (instant : Instant) : String :=
  String.ofList ((instant.localTime 0).text ++ ['Z'])

end WorldClock
