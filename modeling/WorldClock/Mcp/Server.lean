import WorldClock.Mcp.Method
import WorldClock.Rpc.Envelope
/-!
# The server

How the server handles a message on a session, whatever brought the message. A session starts with
a greeting: until then all other requests are refused. A notification is never answered, whatever
comes of it.
-/

namespace WorldClock

/-- The server: the time that a call of a tool may take, the statistics of the calls, and the zones
that it knows. -/
structure Server where
  toolTimeout : Duration
  metrics : Metrics
  zones : ZoneTable

/-- What comes of a message: the server after it, whether the client of the session has greeted it,
and the answer. -/
structure Turn where
  server : Server
  greeted : Bool
  answer : Answer

namespace Server

/-- A server before any call. -/
def start (toolTimeout : Duration) (zones : ZoneTable := Zone.find?) : Server :=
  ⟨toolTimeout, Metrics.ofNames (Tool.all.map Tool.name), zones⟩

/-- A request that is refused is answered unless it is a notification. -/
def refuse (server : Server) (greeted : Bool) (request : Request) (error : RpcError) : Turn :=
  ⟨server, greeted,
    if request.isNotification then .silence else .reply (.failure request.id error)⟩

/-- Carries out a request. A greeting that succeeds counts from then on. -/
def carryOut (server : Server) (moment : Moment) (greeted : Bool) (request : Request) : Turn :=
  let (metrics, answer) :=
    dispatch server.toolTimeout server.zones moment server.metrics request
  let server := { server with metrics }
  match answer with
  | .stopped cause => ⟨server, greeted, .stopped cause⟩
  | .silence => ⟨server, greeted, .silence⟩
  | .reply response =>
    if request.isNotification then ⟨server, greeted, .silence⟩
    else
      let greets := request.method == Method.greet.name && response.isSuccess
      ⟨server, greeted || greets, .reply response⟩

/-- Handles a request on a session. -/
def handleRequest (server : Server) (moment : Moment) (greeted : Bool) (request : Request) :
    Turn :=
  if request.version ≠ rpcVersion then server.refuse greeted request .invalidRequest
  else if !greeted && request.method ≠ Method.greet.name then
    server.refuse greeted request (.invalidRequestWith "Server not initialized")
  else server.carryOut moment greeted request

/-- Handles a message on a session. A message that is no request is answered without an id. -/
def handle (server : Server) (moment : Moment) (greeted : Bool) (message : Bytes) : Turn :=
  match Request.ofBytes? message with
  | some request => server.handleRequest moment greeted request
  | none => ⟨server, greeted, .reply (.failure none .parseError)⟩

end Server

end WorldClock
