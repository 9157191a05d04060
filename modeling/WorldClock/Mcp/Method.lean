import WorldClock.Mcp.Resources
import WorldClock.Mcp.Tools
import WorldClock.Mcp.Version
import WorldClock.Rpc.Message
/-!
# Methods

What the methods of the server do, for a client that may use them. A method looks at the time,
counts the calls of tools, and leaves all else as it is.
-/

namespace WorldClock

/-- The time at which a request is handled: the instant that the clock shows, and how long a call of
a tool takes. -/
structure Moment where
  now : Instant
  elapsed : Duration

/-- What comes of a message. -/
inductive Answer
  | silence
  | reply (response : Response)
  /-- The handling of the message came to an end without a result. -/
  | stopped (cause : Breakdown)

/-! ### Methods by name -/

/-- The methods. -/
inductive Method
  | greet | greeted | ping | listTools | callTool | listResources | readResource
deriving DecidableEq, Repr

namespace Method

/-- All methods. -/
def all : List Method :=
  [greet, greeted, ping, listTools, callTool, listResources, readResource]

/-- The name of a method. -/
def name : Method → String
  | greet => "initialize"
  | greeted => "notifications/initialized"
  | ping => "ping"
  | listTools => "tools/list"
  | callTool => "tools/call"
  | listResources => "resources/list"
  | readResource => "resources/read"

/-- The method with a name. -/
def ofName? (name : String) : Option Method :=
  all.find? fun method => method.name == name

end Method

/-! ### What methods do -/

/-- What the server says of itself when a client greets it. -/
def greetingResult (params : Option Json) : Json :=
  let greeting := params.bind Greeting.ofJson?
  .object [
    ("protocolVersion", .str (negotiate (greeting.bind Greeting.revision))),
    ("capabilities", .object [("tools", .obj []), ("resources", .obj [])]),
    ("serverInfo", .object [("name", .str serverName), ("version", .str serverVersion)])]

/-- Calls a tool and counts the call. -/
def callTool (limit : Duration) (table : ZoneTable) (moment : Moment) (metrics : Metrics)
    (request : Request) : Metrics × Answer :=
  match request.params with
  | none =>
    (metrics, .reply (.failure request.id (.invalidParams "Missing params for tools/call")))
  | some params =>
    match ToolCall.ofJson params with
    | .error error =>
      (metrics, .reply (.failure request.id
        (.invalidParams s!"Invalid tools/call params: {error.message}")))
    | .ok call =>
      match call.run moment.now table with
      | .error cause => (metrics, .stopped cause)
      | .ok result =>
        let result := result.within limit (some 0)
        let ended : Call := ⟨call.name, moment.elapsed, !result.isError, moment.now⟩
        (metrics.record ended,
          if metrics.accepts ended then .reply (.success request.id result.json)
          else .stopped .durationSum)

/-- Reads a resource. -/
def answerReading (table : ZoneTable) (moment : Moment) (metrics : Metrics) (request : Request) :
    Answer :=
  match request.params with
  | none => .reply (.failure request.id (.invalidParams "Missing params for resources/read"))
  | some params =>
    match resourceOfJson params with
    | .error error =>
      .reply (.failure request.id
        (.invalidParams s!"Invalid resources/read params: {error.message}"))
    | .ok uri =>
      match readResource uri moment.now metrics table with
      | .error cause => .stopped cause
      | .ok (.error fault) => .reply (.failure request.id fault.rpcError)
      | .ok (.ok content) =>
        .reply (.success request.id (.obj [("contents", .arr [content])]))

/-- Does what a method does, and answers as if an answer were due. -/
def dispatch (limit : Duration) (table : ZoneTable) (moment : Moment) (metrics : Metrics)
    (request : Request) : Metrics × Answer :=
  match Method.ofName? request.method with
  | some .greet => (metrics, .reply (.success request.id (greetingResult request.params)))
  | some .greeted => (metrics, .silence)
  | some .ping => (metrics, .reply (.success request.id (.obj [])))
  | some .listTools =>
    (metrics, .reply (.success request.id
      (.obj [("tools", .arr (Tool.all.map Tool.json))])))
  | some .callTool => callTool limit table moment metrics request
  | some .listResources =>
    (metrics, .reply (.success request.id
      (.obj [("resources", .arr (Resource.all.map Resource.json))])))
  | some .readResource => (metrics, answerReading table moment metrics request)
  | none => (metrics, .reply (.failure request.id (.methodNotFound request.method)))

end WorldClock
