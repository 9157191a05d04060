import WorldClock.Json.Printer
/-!
# JSON-RPC messages

Requests, and the replies to them. A reply repeats the id of its request and holds either a result
or an error, never both. A request without an id is a notification.
-/

namespace WorldClock

/-- The version of the protocol that every message must name. -/
def rpcVersion : String := "2.0"

/-- The id by which a client recognises the reply to a request. -/
inductive RequestId
  /-- An integer of 64 bits with a sign. -/
  | number (value : Int)
  | text (value : String)
deriving DecidableEq, Repr

/-- An id as JSON. -/
def RequestId.json : RequestId → Json
  | number value => .int value
  | text value => .str value

/-- Whether an integer has 64 bits with a sign. -/
def isInt64 (n : Int) : Bool :=
  -0x8000000000000000 ≤ n && n < 0x8000000000000000

/-- The id that a JSON value stands for. -/
def RequestId.ofJson? : Json → Option RequestId
  | .int value => if isInt64 value then some (.number value) else none
  | .str value => some (.text value)
  | _ => none

/-- A decoded request. -/
structure Request where
  version : String
  id : Option RequestId
  method : String
  params : Option Json
deriving Repr

/-- A request without an id gets no reply. -/
def Request.isNotification (request : Request) : Bool :=
  request.id.isNone

/-! ### Errors -/

/-- Why a request was not carried out. -/
structure RpcError where
  code : Int
  message : String
  data : Option Json
deriving Repr

namespace RpcError

/-- The message is not a request. -/
def parseError : RpcError := ⟨-32700, "Parse error", none⟩

/-- The request may not be made like this or now. -/
def invalidRequestWith (detail : String) : RpcError := ⟨-32600, detail, none⟩

/-- The request does not follow the protocol. -/
def invalidRequest : RpcError := invalidRequestWith "Invalid Request"

/-- No method has this name. -/
def methodNotFound (method : String) : RpcError :=
  ⟨-32601, s!"Method not found: {method}", none⟩

/-- The parameters do not fit the method. -/
def invalidParams (detail : String) : RpcError := ⟨-32602, detail, none⟩

/-- The server failed. -/
def internalError (detail : String) : RpcError := ⟨-32603, detail, none⟩

/-- An error as JSON. -/
def json (error : RpcError) : Json :=
  .obj ([("code", .int error.code), ("message", .str error.message)] ++
    error.data.toList.map fun data => ("data", data))

end RpcError

/-! ### Replies -/

/-- What became of a request. -/
inductive Outcome
  | result (value : Json)
  | error (error : RpcError)
deriving Repr

/-- A reply. -/
structure Response where
  id : Option RequestId
  outcome : Outcome
deriving Repr

namespace Response

/-- The reply to a request that was carried out. Results are kept in canonical form. -/
def success (id : Option RequestId) (result : Json) : Response := ⟨id, .result result.canonical⟩

/-- The reply to a request that was not carried out. -/
def failure (id : Option RequestId) (error : RpcError) : Response := ⟨id, .error error⟩

/-- Whether the request was carried out. -/
def isSuccess (response : Response) : Bool :=
  match response.outcome with
  | .result _ => true
  | .error _ => false

/-- A reply as JSON. -/
def json (response : Response) : Json :=
  .obj (("jsonrpc", .str rpcVersion) ::
    (response.id.toList.map fun id => ("id", id.json)) ++
    match response.outcome with
    | .result value => [("result", value)]
    | .error error => [("error", error.json)])

/-- The text of a reply on the wire. -/
def text (response : Response) : String :=
  response.json.text

end Response

end WorldClock
