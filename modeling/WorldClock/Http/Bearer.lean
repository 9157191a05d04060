import WorldClock.Http.Message
import WorldClock.Text.Blank
import WorldClock.Text.Letters
/-!
# Bearer tokens

A request shows its token in a header: the word `Bearer`, a space, and the token. It passes if the
token is the one that the server is told, or if the server is told none.
-/

namespace WorldClock

/-- The token in the value of a header. Blanks around the value and around the token do not count,
nor does the case of the word in front. -/
def bearerToken? (value : String) : Option String :=
  let cs := Text.trimmed value.toList
  match cs.dropWhile (· != ' ') with
  | [] => none
  | _ :: token =>
    if Text.sameLetters (String.ofList (cs.takeWhile (· != ' '))) "bearer" then
      some (Text.trim (String.ofList token))
    else none

/-- The token that a request shows. -/
def HttpRequest.token? (request : HttpRequest) : Option String := do
  let value ← request.header? "authorization"
  guard (isReadable value)
  bearerToken? value

/-- Whether a request may pass. -/
def HttpRequest.isAuthorized (request : HttpRequest) (expected : Option String) : Bool :=
  match expected with
  | none => true
  | some expected => request.token? == some expected

/-- The response to a request that may not pass. -/
def unauthorized : HttpResponse :=
  (HttpResponse.text 401 "Unauthorized").withHeader "www-authenticate" "Bearer"

end WorldClock
