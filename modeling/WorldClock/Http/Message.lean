import WorldClock.Json.Printer
import WorldClock.Rpc.Envelope
/-!
# HTTP messages

Requests and responses, as far as the server looks at them or writes them.
-/

namespace WorldClock

/-! ### Requests -/

/-- A request. The target is the part of its address behind the host. -/
structure HttpRequest where
  method : String
  target : String
  headers : List (String × String)
  body : Bytes

/-- The value of a header. Upper and lower case do not matter in its name, and of several headers
with the name the first one counts. -/
def HttpRequest.header? (request : HttpRequest) (name : String) : Option String :=
  (request.headers.find? fun header => header.1.toLower == name).map Prod.snd

/-- Whether a character may stand in the value of a header that is read as text. -/
def isHeaderChar (c : Char) : Bool :=
  (0x20 ≤ c.toNat && c.toNat ≤ 0x7E) || c == '\t'

/-- Whether the value of a header can be read as text. -/
def isReadable (value : String) : Bool :=
  value.toList.all isHeaderChar

/-- Whether the body of a request is too long to be taken. -/
def HttpRequest.isTooLong (request : HttpRequest) : Bool :=
  maxMessageBytes < request.body.length

/-! ### Responses -/

/-- A response. -/
structure HttpResponse where
  status : Nat
  headers : List (String × String)
  body : String
deriving DecidableEq, Repr

namespace HttpResponse

/-- A response that says all by its status. -/
def bare (status : Nat) : HttpResponse := ⟨status, [], ""⟩

/-- A response with a text. -/
def text (status : Nat) (body : String) : HttpResponse :=
  ⟨status, [("content-type", "text/plain; charset=utf-8")], body⟩

/-- A response with a JSON value. -/
def json (status : Nat) (body : Json) : HttpResponse :=
  ⟨status, [("content-type", "application/json")], body.text⟩

/-- A response with one more header. -/
def withHeader (response : HttpResponse) (name value : String) : HttpResponse :=
  { response with headers := response.headers ++ [(name, value)] }

/-- A response without its body. -/
def withoutBody (response : HttpResponse) : HttpResponse :=
  { response with body := "" }

/-- A response that pages from everywhere may read. -/
def shared (response : HttpResponse) : HttpResponse :=
  (response.withHeader "access-control-allow-origin" "*").withHeader
    "access-control-expose-headers" "*"

end HttpResponse

end WorldClock
