import WorldClock.Http.Message
import WorldClock.Mcp.Server
import WorldClock.Session.Registry
import WorldClock.Config.Basic
/-!
# The hub

The state of a server on the network: the sessions of its clients, the streams of events that are
open, and the time. Session ids come from outside; each is new when it is given to the hub.
-/

namespace WorldClock

/-- The number of a stream: how many were opened before it. -/
abbrev StreamNumber := Nat

/-- A stream of events, as its reader sees it. -/
structure EventStream where
  session : SessionNumber
  /-- Whether the event that tells where to post messages has been read. -/
  announced : Bool
  /-- When something was last read, or else when the stream was opened. -/
  lastFrame : Duration
  /-- Whether the reader is still there. -/
  isOpen : Bool

/-- The state of a server on the network. -/
structure Hub where
  config : Config
  server : Server
  /-- The instant that the clock shows. -/
  clock : Instant
  /-- The time since the start. -/
  time : Duration
  sessions : Sessions
  streams : List EventStream
  /-- The ticket for the next reply that has to stand in line. -/
  nextTicket : Ticket

/-- A request that comes in, a session id that was never given out, and how long a call of a tool
takes. -/
structure Arrival where
  request : HttpRequest
  freshId : String
  elapsed : Duration

/-- What comes of a request. -/
inductive Reaction
  | response (response : HttpResponse)
  /-- The response goes on with the events of a stream. -/
  | stream (response : HttpResponse) (stream : StreamNumber)
  /-- The response has to wait until the reply finds room in an outbox. -/
  | waiting (ticket : Ticket)
  /-- The handling of the request came to an end without a response. -/
  | stopped (cause : Breakdown)

/-- Changes the response in a reaction. -/
def Reaction.mapResponse (change : HttpResponse → HttpResponse) : Reaction → Reaction
  | .response answer => .response (change answer)
  | .stream answer number => .stream (change answer) number
  | .waiting ticket => .waiting ticket
  | .stopped cause => .stopped cause

namespace Hub

/-- A server that has just been started. -/
def start (config : Config) (clock : Instant) (zones : ZoneTable := Zone.find?) : Hub where
  config := config
  server := .start config.toolTimeout zones
  clock := clock
  time := 0
  sessions := []
  streams := []
  nextTicket := 0

/-- Opens a session under a new id and registers it. -/
def openSession (hub : Hub) (id : String) (surface : Surface) (greeted : Bool) : Hub :=
  let session : Session := { Session.opened id surface hub.time with greeted, held := false }
  { hub with
    sessions := (hub.sessions ++ [session]).register hub.sessions.length }

/-- Handles a message on a session. -/
def hear (hub : Hub) (elapsed : Duration) (number : SessionNumber) (session : Session)
    (message : Bytes) : Hub × Answer :=
  let turn := hub.server.handle ⟨hub.clock, elapsed⟩ session.greeted message
  ({ hub with
      server := turn.server
      sessions := hub.sessions.modify number fun session =>
        { session with greeted := turn.greeted } },
    turn.answer)

/-! ### Time -/

/-- Ends the sessions that answer at once and have been idle too long. -/
def sweep (hub : Hub) (now : Duration) : Hub :=
  { hub with sessions := hub.sessions.evictIdle .http hub.config.sessionTtl now }

/-- The last time up to some time at which idle sessions are searched for. -/
def lastSweep (hub : Hub) (now : Duration) : Duration :=
  now / sweepInterval hub.config.sessionTtl * sweepInterval hub.config.sessionTtl

/-- Lets time pass. Of the searches for idle sessions that fall into it only the last one matters,
as it finds all that the others would have found. -/
def advance (hub : Hub) (duration : Duration) : Hub :=
  let now := hub.time + duration
  let hub :=
    if hub.config.transport.servesHttp && hub.time < hub.lastSweep now then
      hub.sweep (hub.lastSweep now)
    else hub
  { hub with time := now }

/-- Takes all sessions out of the registry, as is done when the server is told to end. -/
def clear (hub : Hub) : Hub :=
  { hub with sessions := hub.sessions.clear }

/-- The reply that stands in line with a ticket is no longer waited for. -/
def abandon (hub : Hub) (ticket : Ticket) : Hub :=
  { hub with sessions := hub.sessions.map fun session => session.abandon ticket }

end Hub

end WorldClock
