import WorldClock.Mcp.Fault
import WorldClock.Mcp.Params
import WorldClock.Metrics.Calls
import WorldClock.Schema.Document
/-!
# Tools

The two tools of the server: one tells the current time in a zone, the other converts a time from
one zone to another. The arguments of a tool are checked against its schema before they are decoded.
A failure of a tool is an answer of it and not an error of the request.
-/

namespace WorldClock

/-- The tools. -/
inductive Tool
  | currentTime | conversion
deriving DecidableEq, Repr

namespace Tool

/-! ### Descriptions -/

/-- All tools. -/
def all : List Tool := [currentTime, conversion]

/-- The name of a tool. -/
def name : Tool → String
  | currentTime => "get_system_time"
  | conversion => "convert_time"

/-- The tool with a name. -/
def ofName? (name : String) : Option Tool :=
  all.find? fun tool => tool.name == name

/-- What a tool is good for. -/
def description : Tool → String
  | currentTime => "Get the current system time in the given timezone"
  | conversion => "Convert a time from one timezone to another"

/-- The schema of an argument that is a text. -/
def textSchema (description : String) (more : List (String × Json)) : Json :=
  .object ([("type", .str "string"), ("description", .str description)] ++ more)

/-- The schema of the arguments of a tool. -/
def inputSchema : Tool → Json
  | currentTime => .object [
      ("type", .str "object"),
      ("properties", .object [
        ("timezone", textSchema ("IANA timezone name (e.g. 'America/New_York', " ++
          "'Europe/London'). Defaults to UTC.") [])]),
      ("additionalProperties", .bool false)]
  | conversion => .object [
      ("type", .str "object"),
      ("required", .arr [.str "time", .str "source_timezone", .str "target_timezone"]),
      ("properties", .object [
        ("time", textSchema ("RFC 3339 timestamp, or local 'YYYY-MM-DD HH:MM[:SS]' read in " ++
          "source_timezone") [("minLength", .int 1)]),
        ("source_timezone", textSchema "IANA timezone of the input time" []),
        ("target_timezone", textSchema "IANA timezone to convert into" [])]),
      ("additionalProperties", .bool false)]

/-- A tool as clients see it in the list of tools. -/
def json (tool : Tool) : Json :=
  .object [
    ("name", .str tool.name),
    ("description", .str tool.description),
    ("inputSchema", tool.inputSchema)]

/-! ### Calls -/

/-- The fault of arguments that a tool does not take. -/
def badArguments (tool : Tool) (reason : String) : Fault :=
  ⟨.invalidArguments, s!"Invalid arguments for {tool.name}: {reason}"⟩

/-- Checks the arguments of a tool against its schema and decodes them. No arguments are as good as
an object without members. -/
def readArguments {α : Type} (tool : Tool) (decode : Json → Except ParamError α)
    (arguments : Option Json) : Except Fault α :=
  let arguments := arguments.getD (.obj [])
  match validate tool.inputSchema arguments with
  | .error refusal => .error (tool.badArguments refusal.message)
  | .ok () =>
    match decode arguments with
    | .error error => .error (tool.badArguments error.message)
    | .ok decoded => .ok decoded

/-- Tells the time at an instant in a zone of a table, which is UTC unless another is asked for. -/
def tellTime (arguments : CurrentTimeArguments) (now : Instant)
    (table : ZoneTable := Zone.find?) : Except Breakdown ToolResult :=
  match Zone.ofName (arguments.timezone.getD "") table with
  | .error error => .ok (.ofFault (.ofTimeError error))
  | .ok zone => (now.timestamp zone).map .ok

/-- Converts a time from one zone of a table to another. -/
def convertTime (arguments : ConversionArguments) (table : ZoneTable := Zone.find?) :
    Except Breakdown ToolResult :=
  (convert arguments.time arguments.source arguments.target table).map fun
    | .ok time => .ok time
    | .error error => .ofFault (.ofTimeError error)

/-- Runs a tool at an instant, with the zones of a table. -/
def run (tool : Tool) (arguments : Option Json) (now : Instant)
    (table : ZoneTable := Zone.find?) : Except Breakdown ToolResult :=
  match tool with
  | currentTime =>
    match readArguments currentTime CurrentTimeArguments.ofJson arguments with
    | .error fault => .ok (.ofFault fault)
    | .ok arguments => tellTime arguments now table
  | conversion =>
    match readArguments conversion ConversionArguments.ofJson arguments with
    | .error fault => .ok (.ofFault fault)
    | .ok arguments => convertTime arguments table

end Tool

/-- Carries out a call, with the zones of a table. -/
def ToolCall.run (call : ToolCall) (now : Instant) (table : ZoneTable := Zone.find?) :
    Except Breakdown ToolResult :=
  match Tool.ofName? call.name with
  | some tool => tool.run call.arguments now table
  | none => .ok (.error s!"Unknown tool: {call.name}")

/-- The longest time that anything is waited for: thirty years of 365 days. A longer wait ends
then. -/
def longestWait : Duration := 30 * 365 * 86400 * nanosPerSecond

/-- What becomes of a call that answers after a delay, or never, if calls may take a limited time.
An answer that comes just at the limit still counts. -/
def ToolResult.within (limit : Duration) (delay : Option Duration) (result : ToolResult) :
    ToolResult :=
  if delay.any fun delay => min delay longestWait ≤ limit then result
  else .ofFault (.plain .timeout)

end WorldClock
