import WorldClock.Metrics.Calls
import WorldClock.Session.Outbox
/-!
# Sessions

A session is the conversation with one client, over the surface on which it was opened. Only the
sessions of streams of events have an outbox; the others answer where they are asked.
-/

namespace WorldClock

/-- The surfaces on which sessions are opened. -/
inductive SessionKind
  | stdio | sse | http
deriving DecidableEq, Repr

/-- The surface of a session with what belongs to it. -/
inductive Surface
  | stdio
  | http
  | sse (outbox : Outbox)

/-- The kind of a surface. -/
def Surface.kind : Surface → SessionKind
  | stdio => .stdio
  | http => .http
  | sse _ => .sse

/-- A session. -/
structure Session where
  id : String
  surface : Surface
  /-- Whether the client has greeted the server. -/
  greeted : Bool
  /-- When the client was last active. -/
  lastSeen : Duration
  /-- Whether the session can be found by its id. -/
  registered : Bool
  /-- Whether the session is in use though it may not be found. -/
  held : Bool

namespace Session

/-- A session that is opened at some time. -/
def opened (id : String) (surface : Surface) (now : Duration) : Session :=
  ⟨id, surface, false, now, false, true⟩

/-- A session for one request only, which needs no greeting. -/
def stateless (now : Duration) : Session :=
  { opened "" .http now with greeted := true }

/-- The kind of a session. -/
def kind (session : Session) : SessionKind :=
  session.surface.kind

/-- Notes that the client is active. -/
def touch (session : Session) (now : Duration) : Session :=
  { session with lastSeen := now }

/-- How long the client has not been active. -/
def idle (session : Session) (now : Duration) : Duration :=
  now - session.lastSeen

/-- The outbox of a session, if it has one. -/
def outbox? (session : Session) : Option Outbox :=
  match session.surface with
  | .sse outbox => some outbox
  | .stdio | .http => none

/-- Changes the outbox of a session. -/
def withOutbox (session : Session) (outbox : Outbox) : Session :=
  { session with surface := .sse outbox }

/-- Whether more replies may come into the outbox. -/
def canSend (session : Session) : Bool :=
  session.registered || session.held ||
    session.outbox?.any fun outbox => !outbox.line.isEmpty

/-- What comes of sending a reply. -/
inductive Sending
  /-- The reply is in the outbox. -/
  | sent (session : Session)
  /-- The outbox has no room. -/
  | full (outbox : Outbox)
  | failed (error : SendError)

/-- Sends a reply to the client. -/
def send (session : Session) (response : Response) : Sending :=
  match session.surface with
  | .stdio | .http => .failed .noChannel
  | .sse outbox =>
    if !outbox.isRead then .failed .closed
    else if outbox.hasRoom then .sent (session.withOutbox (outbox.push response))
    else .full outbox

/-- What the reader of a session finds. -/
inductive Receipt
  /-- A reply, after which the session is another. The ticket is that of a reply that moved in. -/
  | received (response : Response) (session : Session) (movedIn : Option Ticket)
  /-- Nothing yet. -/
  | empty
  /-- Nothing, and nothing to come. -/
  | closed
  /-- There is no reader. -/
  | noReader

/-- Takes the next reply out of the outbox. -/
def receive (session : Session) : Receipt :=
  match session.outbox? with
  | none => .noReader
  | some outbox =>
    if !outbox.isRead then .noReader
    else match outbox.next? with
    | some (response, outbox, movedIn) => .received response (session.withOutbox outbox) movedIn
    | none => if session.canSend then .empty else .closed

/-- Ends the reading. Returns the tickets of the replies that are refused for it. -/
def stopReading (session : Session) : Session × List Ticket :=
  match session.outbox? with
  | none => (session, [])
  | some outbox =>
    let (outbox, refused) := outbox.close
    (session.withOutbox outbox, refused)

/-- The reply that stands in line with a ticket is no longer waited for. -/
def abandon (session : Session) (ticket : Ticket) : Session :=
  match session.outbox? with
  | none => session
  | some outbox => session.withOutbox (outbox.abandon ticket)

end Session

end WorldClock
