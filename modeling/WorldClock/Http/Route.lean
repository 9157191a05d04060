import WorldClock.Config.Basic
import WorldClock.Http.Message
/-!
# Routes

The paths on which the server listens, with the methods of each. Which ones there are depends on the
transport. Two of them tell of the server itself and are open to all; the others carry messages.
-/

namespace WorldClock

/-- The routes. -/
inductive Route
  | health | version
  /-- Where streams of events are opened. -/
  | events
  /-- Where messages are posted that are answered on a stream of events. -/
  | messages
  /-- Where messages are posted that are answered at once. -/
  | rpc
deriving DecidableEq, Repr

namespace Route

/-- All routes. -/
def all : List Route := [health, version, events, messages, rpc]

/-- The path of a route. -/
def path : Route → String
  | health => "/health"
  | version => "/version"
  | events => "/sse"
  | messages => "/messages"
  | rpc => "/http"

/-- Whether a transport has a route. -/
def isServed (transport : Transport) : Route → Bool
  | health | version => true
  | events | messages => transport.servesStreams
  | rpc => transport.servesHttp

/-- The route of a transport with a path. -/
def ofPath? (transport : Transport) (path : String) : Option Route :=
  all.find? fun route => route.isServed transport && route.path == path

/-- Whether a route carries messages, so that requests need a token. -/
def isGuarded : Route → Bool
  | health | version => false
  | events | messages | rpc => true

/-- The methods of a route. -/
def methods : Route → List String
  | health | version | events => ["GET", "HEAD"]
  | messages => ["POST"]
  | rpc => ["POST", "DELETE"]

/-- The methods of a route as a header lists them. -/
def allow (route : Route) : String :=
  String.intercalate "," route.methods

end Route

/-- The response to the question what a page from elsewhere may do, if a route has the path or if
none has. -/
def preflight (route : Option Route) : HttpResponse where
  status := 200
  headers := [
    ("access-control-allow-origin", "*"),
    ("access-control-allow-methods", "*"),
    ("access-control-allow-headers", "*")] ++
    route.toList.map fun route => ("allow", route.allow)
  body := ""

end WorldClock
