import WorldClock.Text.Letters
import WorldClock.Time.Layout
import WorldClock.Time.Resolution
import WorldClock.Time.Timestamp
/-!
# Conversion between zones

Finding zones by name, reading times in a zone and writing them in another. A time that carries its
own offset is read as a timestamp. Any other is local to the source zone: where the zone's clocks
show it twice the earlier instant is meant, and where they skip it there is no such time.
-/

namespace WorldClock

/-! ### What can go wrong -/

/-- The causes for which a time cannot be read or converted. -/
inductive TimeError
  | unknownTimezone (name : String)
  | invalidTime (time : String)
  | nonexistentLocalTime (time zone : String)
  | unrepresentable (time zone : String)
deriving DecidableEq, Repr

/-- The text that explains a cause. -/
def TimeError.message : TimeError → String
  | unknownTimezone name => s!"unknown timezone: {name}"
  | invalidTime time =>
    s!"cannot parse time '{time}': expected RFC 3339 or YYYY-MM-DD HH:MM[:SS]"
  | nonexistentLocalTime time zone => s!"local time {time} does not exist in {zone}"
  | unrepresentable time zone => s!"time {time} cannot be expressed as RFC 3339 in {zone}"

/-! ### Zones by name -/

/-- The zone that a text names. Nothing, `Z` and `utc` in any case name UTC; blanks around a name
do not count. All other names are looked up in a table, which is that of this library unless
another is given. -/
def Zone.ofName (text : String) (table : ZoneTable := Zone.find?) :
    Except TimeError Zone :=
  let name := Text.trim text
  if name = "" ∨ Text.sameLetters name "utc" ∨ name = "Z" then .ok Zone.utc
  else match table name with
    | some zone => .ok zone
    | none => .error (.unknownTimezone name)

/-! ### Reading a time -/

/-- The instants at which the clocks of a zone show a local time. -/
def Zone.resolve (zone : Zone) (time : LocalTime) : Resolution Instant :=
  (zone.history.resolve time.second).andThen fun span =>
    Instant.of? (time.second - span.offset) time.nanos

/-- The instant that a text denotes. The source zone matters only for a text without an offset. -/
def Instant.ofText (text : String) (source : Zone) : Except TimeError Instant :=
  let cs := Text.trimmed text.toList
  match Instant.ofTimestamp? cs with
  | some instant => .ok instant
  | none =>
    match Layout.firstLocalTime? Layout.accepted cs with
    | none => .error (.invalidTime (Text.trim text))
    | some time =>
      match (source.resolve time).earliest? with
      | some instant => .ok instant
      | none => .error (.nonexistentLocalTime (Text.trim text) source.name)

/-! ### Converting -/

/-- Whether a timestamp shows a local time and its offset in full: the year has four digits and the
offset no seconds. -/
def Instant.isExpressible (instant : Instant) (zone : Zone) : Bool :=
  let year := (zone.localTime instant).date.year
  0 ≤ year && year ≤ 9999 && zone.offsetAt instant % 60 == 0

/-- Reads a time in one zone and writes it in another, with the zones of a table. Nothing is
rounded: a time that the target zone cannot show in full is refused. -/
def convert (text source target : String) (table : ZoneTable := Zone.find?) :
    Except Breakdown (Except TimeError String) :=
  match Zone.ofName source table, Zone.ofName target table with
  | .error e, _ => .ok (.error e)
  | .ok _, .error e => .ok (.error e)
  | .ok source, .ok target =>
    match Instant.ofText text source with
    | .error e => .ok (.error e)
    | .ok instant =>
      if instant.isExpressible target then
        (instant.timestamp target).map .ok
      else .ok (.error (.unrepresentable (Text.trim text) target.name))

end WorldClock
