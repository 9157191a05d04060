import WorldClock.Json.Printer
import WorldClock.Text.Quoted
/-!
# Parameters of methods

Decoding of the parameters that methods and tools take. The parameters of a method are an object
whose members have the names of the parameters, other members being passed over, or an array of all
parameters in order. The arguments of a tool are an object. An optional parameter may be null.
-/

namespace WorldClock

/-! ### What can go wrong -/

/-- Why a JSON value does not decode. -/
inductive ParamError
  | wrongType (found : Json) (expected : String)
  | missing (name : String)
  | tooFew (count : Nat) (expected : String)
  | tooMany (count : Nat)
deriving Repr

/-- The words for a value in an explanation. -/
def Json.description : Json → String
  | null => "null"
  | bool value => s!"boolean `{(bool value).text}`"
  | int value => s!"integer `{(int value).text}`"
  | float value => s!"floating point `{(float value).text}`"
  | str text => s!"string {Text.quoted text}"
  | arr _ => "sequence"
  | obj _ => "map"

/-- The text that explains why a value does not decode. -/
def ParamError.message : ParamError → String
  | wrongType found expected => s!"invalid type: {found.description}, expected {expected}"
  | missing name => s!"missing field `{name}`"
  | tooFew count expected => s!"invalid length {count}, expected {expected}"
  | tooMany count => s!"invalid length {count}, expected fewer elements in array"

namespace Json

/-! ### Single values -/

/-- A text. -/
def asText : Json → Except ParamError String
  | str text => .ok text
  | value => .error (.wrongType value "a string")

/-- A text, or null for none. -/
def asText? : Json → Except ParamError (Option String)
  | null => .ok none
  | value => value.asText.map some

/-- A value, or null for none. -/
def unlessNull : Json → Option Json
  | null => none
  | value => some value

/-- The text that a member holds. -/
def textMember (members : List (String × Json)) (name : String) : Except ParamError String :=
  match members.lookup name with
  | some value => value.asText
  | none => .error (.missing name)

/-- The text that a member holds, if the member is there and not null. -/
def textMember? (members : List (String × Json)) (name : String) :
    Except ParamError (Option String) :=
  ((members.lookup name).getD null).asText?

end Json

/-! ### Groups of parameters -/

/-- What a client asks of a tool. -/
structure ToolCall where
  name : String
  arguments : Option Json
deriving Repr

/-- Decodes a call of a tool. -/
def ToolCall.ofJson : Json → Except ParamError ToolCall
  | .obj members => do
    let name ← Json.textMember members "name"
    .ok ⟨name, ((members.lookup "arguments").getD .null).unlessNull⟩
  | .arr [] => .error (.tooFew 0 "struct ToolCallParams with 2 elements")
  | .arr [name] => do
    let _ ← name.asText
    .error (.tooFew 1 "struct ToolCallParams with 2 elements")
  | .arr [name, arguments] => do
    let name ← name.asText
    .ok ⟨name, arguments.unlessNull⟩
  | .arr (name :: rest) => do
    let _ ← name.asText
    .error (.tooMany (rest.length + 1))
  | value => .error (.wrongType value "struct ToolCallParams")

/-- Decodes the address of a resource to read. -/
def resourceOfJson : Json → Except ParamError String
  | .obj members => Json.textMember members "uri"
  | .arr [] => .error (.tooFew 0 "struct ReadResourceParams with 1 element")
  | .arr [uri] => uri.asText
  | .arr (uri :: rest) => do
    let _ ← uri.asText
    .error (.tooMany (rest.length + 1))
  | value => .error (.wrongType value "struct ReadResourceParams")

/-- What a client says of itself. -/
structure ClientInfo where
  name : Option String
  version : Option String
deriving DecidableEq, Repr

/-- What a client says of itself in a JSON value. -/
def ClientInfo.ofJson? : Json → Option ClientInfo
  | .obj members => do
    let name ← (Json.textMember? members "name").toOption
    let version ← (Json.textMember? members "version").toOption
    some ⟨name, version⟩
  | .arr [name, version] => do
    let name ← name.asText?.toOption
    let version ← version.asText?.toOption
    some ⟨name, version⟩
  | _ => none

/-- How a client opens a session. -/
structure Greeting where
  revision : Option String
  client : Option ClientInfo
deriving DecidableEq, Repr

/-- Decodes a greeting from its two parts. -/
def Greeting.ofParts? (revision client : Json) : Option Greeting := do
  let revision ← revision.asText?.toOption
  match client.unlessNull with
  | none => some ⟨revision, none⟩
  | some client => (ClientInfo.ofJson? client).map fun client => ⟨revision, some client⟩

/-- The greeting in a JSON value. A fault in any part of it spoils the whole. -/
def Greeting.ofJson? : Json → Option Greeting
  | .obj members =>
    ofParts? ((members.lookup "protocolVersion").getD .null)
      ((members.lookup "clientInfo").getD .null)
  | .arr [revision, client] => ofParts? revision client
  | _ => none

/-! ### Arguments of tools -/

/-- What the tool for the current time takes. -/
structure CurrentTimeArguments where
  timezone : Option String
deriving DecidableEq, Repr

/-- Decodes what the tool for the current time takes. -/
def CurrentTimeArguments.ofJson : Json → Except ParamError CurrentTimeArguments
  | .obj members => (Json.textMember? members "timezone").map .mk
  | value => .error (.wrongType value "struct GetSystemTimeParams")

/-- What the tool for conversions takes. -/
structure ConversionArguments where
  time : String
  source : String
  target : String
deriving DecidableEq, Repr

/-- Decodes what the tool for conversions takes. -/
def ConversionArguments.ofJson : Json → Except ParamError ConversionArguments
  | .obj members => do
    let time ← Json.textMember members "time"
    let source ← Json.textMember members "source_timezone"
    let target ← Json.textMember members "target_timezone"
    .ok ⟨time, source, target⟩
  | value => .error (.wrongType value "struct ConvertTimeParams")

end WorldClock
