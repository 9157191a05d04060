import WorldClock.Json.Tree
import WorldClock.Rpc.Message
import WorldClock.Text.Blank
/-!
# Request envelopes

Decoding of requests. A message is a text of limited size that holds one JSON object, or one array
of the four known members in order. Each known member may occur once; the others are passed over
without a look at their values.
-/

namespace WorldClock

open Json (Tree)

/-- The bytes of a message. -/
abbrev Bytes := List UInt8

/-- The most bytes that a message may have. -/
def maxMessageBytes : Nat := 1048576

/-- The text that bytes encode, if they are UTF-8. -/
def Bytes.text? (raw : Bytes) : Option String :=
  String.fromUTF8? raw.toByteArray

/-! ### Members -/

/-- The value of the only member with a name, if there is one. Two members of the name are an
error. -/
def Json.Tree.only? (name : String) (members : List (Option String × Tree)) :
    Option (Option Tree) :=
  match members.filter fun member => member.1 == some name with
  | [] => some none
  | [(_, value)] => some (some value)
  | _ => none

/-- The text of a string. -/
def Json.Tree.text? : Tree → Option String
  | .text content => content
  | _ => none

/-- The id that a value stands for: an integer, a string, or none if it is null. -/
def RequestId.ofTree? : Tree → Option (Option RequestId)
  | .null => some none
  | tree => ((tree.value? 0).bind RequestId.ofJson?).map some

/-- The parameters that a value stands for: none if it is null. The envelope is one level of
nesting. -/
def paramsOfTree? : Tree → Option (Option Json)
  | .null => some none
  | tree => (tree.value? (Json.maxDepth - 1)).map some

namespace Request

/-- The request with these members. -/
def ofParts? (version id method params : Option Tree) : Option Request := do
  let version ← version.bind Json.Tree.text?
  let id ← RequestId.ofTree? (id.getD .null)
  let method ← method.bind Json.Tree.text?
  let params ← paramsOfTree? (params.getD .null)
  some { version, id, method, params }

/-- The request that a JSON text stands for. -/
def ofTree? : Tree → Option Request
  | .object members => do
    guard (members.all fun member => member.1.isSome)
    let version ← Json.Tree.only? "jsonrpc" members
    let id ← Json.Tree.only? "id" members
    let method ← Json.Tree.only? "method" members
    let params ← Json.Tree.only? "params" members
    ofParts? version id method params
  | .array [version, id, method, params] =>
    ofParts? (some version) (some id) (some method) (some params)
  | _ => none

/-- The request that a message holds. Blanks around the text do not count. -/
def ofBytes? (raw : Bytes) : Option Request := do
  guard (raw.length ≤ maxMessageBytes)
  let text ← Bytes.text? raw
  let tree ← Tree.ofText? (Text.trimmed text.toList)
  ofTree? tree

end Request

end WorldClock
