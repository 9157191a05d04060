import WorldClock.Mcp.Fault
import WorldClock.Metrics.Report
/-!
# Resources

The documents that clients can read: some zones with their offsets, the time in some cities, and
the metrics of the tools. All are JSON texts that are written anew for each reading.
-/

namespace WorldClock

/-- The resources. -/
inductive Resource
  | timezones | worldTimes | toolMetrics
deriving DecidableEq, Repr

namespace Resource

/-! ### Descriptions -/

/-- All resources. -/
def all : List Resource := [timezones, worldTimes, toolMetrics]

/-- The address of a resource. -/
def uri : Resource → String
  | timezones => "timezone://info"
  | worldTimes => "time://current/world"
  | toolMetrics => "metrics://tools"

/-- The resource at an address. -/
def ofUri? (uri : String) : Option Resource :=
  all.find? fun resource => resource.uri == uri

/-- The name of a resource for people. -/
def name : Resource → String
  | timezones => "Timezone information"
  | worldTimes => "Current world times"
  | toolMetrics => "Tool metrics"

/-- What a resource holds. -/
def description : Resource → String
  | timezones => "Well-known timezones with their current UTC offsets"
  | worldTimes => "Current time in major cities"
  | toolMetrics => "Invocation counts and response times per tool"

/-- The form of all resources. -/
def mimeType : String := "application/json"

/-- A resource as clients see it in the list of resources. -/
def json (resource : Resource) : Json :=
  .object [
    ("uri", .str resource.uri),
    ("name", .str resource.name),
    ("description", .str resource.description),
    ("mimeType", .str mimeType)]

/-! ### Contents -/

/-- Some zones, each with the name it has among people. -/
def knownZones : List (String × String) := [
  ("UTC", "Coordinated Universal Time"),
  ("America/New_York", "Eastern Time"),
  ("America/Chicago", "Central Time"),
  ("America/Denver", "Mountain Time"),
  ("America/Los_Angeles", "Pacific Time"),
  ("America/Sao_Paulo", "Brasilia Time"),
  ("Europe/London", "British Time"),
  ("Europe/Paris", "Central European Time"),
  ("Europe/Moscow", "Moscow Time"),
  ("Asia/Dubai", "Gulf Standard Time"),
  ("Asia/Kolkata", "India Standard Time"),
  ("Asia/Shanghai", "China Standard Time"),
  ("Asia/Tokyo", "Japan Standard Time"),
  ("Australia/Sydney", "Australian Eastern Time")]

/-- Some cities, each with the zone it lies in. -/
def cities : List (String × String) := [
  ("New York", "America/New_York"),
  ("Los Angeles", "America/Los_Angeles"),
  ("São Paulo", "America/Sao_Paulo"),
  ("London", "Europe/London"),
  ("Paris", "Europe/Paris"),
  ("Dubai", "Asia/Dubai"),
  ("Mumbai", "Asia/Kolkata"),
  ("Shanghai", "Asia/Shanghai"),
  ("Tokyo", "Asia/Tokyo"),
  ("Sydney", "Australia/Sydney")]

/-- The entry of a zone at an instant. -/
def zoneEntry (now : Instant) (id name : String) (zone : Zone) : Json :=
  .obj [("id", .str id), ("name", .str name), ("offset", .str (now.offsetText zone))]

/-- The entries of the known zones at an instant. A zone that is not in the table has none. -/
def zoneEntries (now : Instant) (table : ZoneTable := Zone.find?) : List Json :=
  knownZones.filterMap fun (id, name) =>
    (Zone.ofName id table).toOption.map (zoneEntry now id name)

/-- The entry of a city in a zone at an instant. -/
def cityEntry (now : Instant) (city id : String) (zone : Zone) : Except Breakdown Json :=
  (now.timestamp zone).map fun time =>
    .obj [("city", .str city), ("timezone", .str id), ("time", .str time)]

/-- The entries of the cities at an instant. A city whose zone is not in the table has none. -/
def cityEntries (now : Instant) (table : ZoneTable := Zone.find?) :
    Except Breakdown (List Json) :=
  (cities.filterMap fun (city, id) =>
    (Zone.ofName id table).toOption.map (cityEntry now city id)).mapM id

/-- The document that a resource holds at an instant, with the zones of a table. -/
def body (now : Instant) (metrics : Metrics) (table : ZoneTable := Zone.find?) :
    Resource → Except Breakdown Json
  | timezones => .ok (.obj [("timezones", .arr (zoneEntries now table))])
  | worldTimes => do
    let utc ← now.timestamp Zone.utc
    let entries ← cityEntries now table
    .ok (.obj [("utc", .str utc), ("cities", .arr entries)])
  | toolMetrics => metrics.report.map Report.json

/-- A reading of a resource as clients get it: its address, its form and its text. -/
def content (resource : Resource) (body : Json) : Json :=
  .object [
    ("uri", .str resource.uri),
    ("mimeType", .str mimeType),
    ("text", .str body.canonical.text)]

end Resource

/-- Reads the resource at an address, with the zones of a table. -/
def readResource (uri : String) (now : Instant) (metrics : Metrics)
    (table : ZoneTable := Zone.find?) : Except Breakdown (Except Fault Json) :=
  match Resource.ofUri? uri with
  | some resource =>
    (resource.body now metrics table).map fun body => .ok (resource.content body)
  | none => .ok (.error ⟨.unknownResource, s!"Unknown resource: {uri}"⟩)

end WorldClock
