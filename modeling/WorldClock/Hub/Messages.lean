import WorldClock.Hub.Streams
import WorldClock.Http.Target
/-!
# Messages over the network

Messages come in two ways. Those that are posted for a stream of events are answered on the stream,
and the response tells only that they were taken. The others are answered in the response. They
belong to the session that a header names; without it a greeting opens a session, and any other
message is handled as if its client had greeted the server.
-/

namespace WorldClock

/-- The header that names the session of a message. -/
def sessionHeader : String := "mcp-session-id"

/-- The response to a message or form that is too long. -/
def tooLong : HttpResponse :=
  .text 413 "Failed to buffer the request body: length limit exceeded"

namespace Hub

/-! ### Messages for streams -/

/-- The session of a stream that bytes name. -/
def streamSession? (hub : Hub) (id : Bytes) : Option (SessionNumber × Session) := do
  let id ← id.text?
  let number ← hub.sessions.find? id .sse
  let session ← hub.sessions[number]?
  some (number, session)

/-- The response to a message that was taken. -/
def accepted : HttpResponse := .text 202 "Accepted"

/-- Sends a reply on the stream of a session. -/
def deliver (hub : Hub) (number : SessionNumber) (session : Session) (reply : Response) :
    Hub × Reaction :=
  match session.send reply with
  | .sent session =>
    ({ hub with sessions := hub.sessions.set number session }, .response accepted)
  | .full outbox =>
    let session := session.withOutbox (outbox.lineUp hub.nextTicket reply)
    ({ hub with
        sessions := hub.sessions.set number session
        nextTicket := hub.nextTicket + 1 },
      .waiting hub.nextTicket)
  | .failed _ => (hub, .response (.text 410 "Session stream closed"))

/-- Handles a message for the stream of a session. -/
def hearForStream (hub : Hub) (elapsed : Duration) (number : SessionNumber) (session : Session)
    (message : Bytes) : Hub × Reaction :=
  match hub.hear elapsed number session message with
  | (hub, .silence) => (hub, .response accepted)
  | (hub, .stopped cause) => (hub, .stopped cause)
  | (hub, .reply reply) =>
    match hub.sessions[number]? with
    | some session => hub.deliver number session reply
    | none => (hub, .response accepted)

/-- Takes a message that is posted for the stream of the session in a query. -/
def postForStream (hub : Hub) (arrival : Arrival) (query : Bytes) : Hub × Reaction :=
  match queriedSession query with
  | .repeated =>
    (hub, .response
      (.text 400 "Failed to deserialize query string: duplicate field `sessionId`"))
  | .absent =>
    if arrival.request.isTooLong then (hub, .response tooLong)
    else (hub, .response (.text 400 "Missing sessionId"))
  | .given id =>
    if arrival.request.isTooLong then (hub, .response tooLong)
    else match hub.streamSession? id with
    | none => (hub, .response (.text 404 "Could not find session"))
    | some (number, session) =>
      hub.hearForStream arrival.elapsed number session arrival.request.body

/-! ### Messages that are answered at once -/

/-- What a response says of an answer. -/
def reactionTo : Answer → Reaction
  | .silence => .response (.bare 202)
  | .reply reply => .response (.json 200 reply.json)
  | .stopped cause => .stopped cause

/-- Whether an answer is a reply to a request that was carried out. -/
def isSuccess : Answer → Bool
  | .reply reply => reply.isSuccess
  | .silence | .stopped _ => false

/-- Handles a request without a session. A greeting that succeeds opens one. -/
def postWithoutSession (hub : Hub) (arrival : Arrival) (request : Request) : Hub × Reaction :=
  let moment : Moment := ⟨hub.clock, arrival.elapsed⟩
  if request.method = Method.greet.name then
    let turn := hub.server.handleRequest moment false request
    let hub := { hub with server := turn.server }
    let reaction := reactionTo turn.answer
    if isSuccess turn.answer then
      (hub.openSession arrival.freshId .http turn.greeted,
        reaction.mapResponse fun response => response.withHeader sessionHeader arrival.freshId)
    else (hub, reaction)
  else
    let turn := hub.server.handleRequest moment true request
    ({ hub with server := turn.server }, reactionTo turn.answer)

/-- Handles a request of the session with a number. -/
def postInSession (hub : Hub) (arrival : Arrival) (number : SessionNumber) (session : Session)
    (request : Request) : Hub × Reaction :=
  let turn := hub.server.handleRequest ⟨hub.clock, arrival.elapsed⟩ session.greeted request
  ({ hub with
      server := turn.server
      sessions := hub.sessions.modify number fun session =>
        { session.touch hub.time with greeted := turn.greeted } },
    reactionTo turn.answer)

/-- Takes a message that is answered at once. -/
def post (hub : Hub) (arrival : Arrival) : Hub × Reaction :=
  if arrival.request.isTooLong then (hub, .response tooLong)
  else match Request.ofBytes? arrival.request.body with
  | none => (hub, .response (.json 400 (Response.failure none .parseError).json))
  | some request =>
    match arrival.request.header? sessionHeader with
    | none => hub.postWithoutSession arrival request
    | some id =>
      if !isReadable id then (hub, .response (.text 400 "Invalid Mcp-Session-Id header"))
      else match hub.sessions.find? id .http with
      | none => (hub, .response (.text 404 "Session not found"))
      | some number =>
        match hub.sessions[number]? with
        | none => (hub, .response (.text 404 "Session not found"))
        | some session => hub.postInSession arrival number session request

/-- Ends the session that a header names. -/
def delete (hub : Hub) (request : HttpRequest) : Hub × HttpResponse :=
  match (request.header? sessionHeader).filter isReadable with
  | none => (hub, .bare 400)
  | some id =>
    match hub.sessions.find? id .http with
    | none => (hub, .bare 404)
    | some _ => ({ hub with sessions := hub.sessions.remove id .http }, .bare 204)

end Hub

end WorldClock
