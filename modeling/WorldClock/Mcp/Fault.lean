import WorldClock.Rpc.Message
import WorldClock.Time.Conversion
/-!
# Faults and tool results

A fault is a failure of a tool or resource as a client sees it: a kind and a message. It travels
either as the text of a tool result or as the data of an error reply.
-/

namespace WorldClock

/-! ### Faults -/

/-- The kinds of faults. -/
inductive FaultKind
  | invalidTimezone | invalidTime | invalidArguments | unknownResource | timeout | internalError
deriving DecidableEq, Repr

namespace FaultKind

/-- All kinds. -/
def all : List FaultKind :=
  [invalidTimezone, invalidTime, invalidArguments, unknownResource, timeout, internalError]

/-- The name of a kind on the wire. -/
def name : FaultKind → String
  | invalidTimezone => "invalid_timezone"
  | invalidTime => "invalid_time"
  | invalidArguments => "invalid_arguments"
  | unknownResource => "unknown_resource"
  | timeout => "timeout"
  | internalError => "internal_error"

/-- The kind with a name. -/
def ofName? (name : String) : Option FaultKind :=
  all.find? fun kind => kind.name == name

/-- The message of a fault of which nothing more is known. -/
def message : FaultKind → String
  | invalidTimezone => "Timezone is not a known IANA zone"
  | invalidTime => "Time could not be parsed"
  | invalidArguments => "Tool arguments are invalid"
  | unknownResource => "Resource not found"
  | timeout => "Tool call timed out"
  | internalError => "Internal error"

/-- Faults in what the client sent count as invalid parameters, others as errors of the server. -/
def isClientFault : FaultKind → Bool
  | invalidTimezone | invalidTime | invalidArguments | unknownResource => true
  | timeout | internalError => false

end FaultKind

/-- A failure of a tool or resource. -/
structure Fault where
  kind : FaultKind
  message : String
deriving DecidableEq, Repr

namespace Fault

/-- The fault of a kind of which nothing more is known. -/
def plain (kind : FaultKind) : Fault := ⟨kind, kind.message⟩

/-- A fault as JSON. -/
def json (fault : Fault) : Json :=
  .obj [("error", .obj [("code", .str fault.kind.name), ("message", .str fault.message)])]

/-- The fault that a JSON value stands for. -/
def ofJson? (value : Json) : Option Fault := do
  let error ← value.get? "error"
  let code ← (error.get? "code").bind Json.str?
  let message ← (error.get? "message").bind Json.str?
  let kind ← FaultKind.ofName? code
  some ⟨kind, message⟩

/-- A fault as the error of a reply. -/
def rpcError (fault : Fault) : RpcError :=
  let error :=
    if fault.kind.isClientFault then RpcError.invalidParams fault.message
    else RpcError.internalError fault.message
  { error with data := some fault.json }

/-- The fault of a time that cannot be read or converted. -/
def ofTimeError (error : TimeError) : Fault where
  kind := match error with
    | .unknownTimezone _ => .invalidTimezone
    | .invalidTime _ | .nonexistentLocalTime _ _ | .unrepresentable _ _ => .invalidTime
  message := error.message

end Fault

/-! ### Tool results -/

/-- What a tool answers: a text, and whether it tells of an error. -/
structure ToolResult where
  text : String
  isError : Bool
deriving DecidableEq, Repr

namespace ToolResult

/-- The answer of a tool that did its work. -/
def ok (text : String) : ToolResult := ⟨text, false⟩

/-- The answer of a tool that failed. -/
def error (text : String) : ToolResult := ⟨text, true⟩

/-- The answer of a tool that failed with a fault: the fault as JSON on a line of its own. -/
def ofFault (fault : Fault) : ToolResult :=
  error (fault.json.text ++ "\n")

/-- A tool result as JSON. -/
def json (result : ToolResult) : Json :=
  .obj (("content", .arr [.obj [("type", .str "text"), ("text", .str result.text)]]) ::
    if result.isError then [("isError", .bool true)] else [])

end ToolResult

end WorldClock
