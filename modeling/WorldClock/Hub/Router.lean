import WorldClock.Hub.Messages
import WorldClock.Http.Bearer
import WorldClock.Http.Route
/-!
# Answering requests

Which part of the server answers a request. Questions of pages from elsewhere come first, then
unknown paths, then the token, and then the methods of the path, so that a request without the token
learns nothing but whether there is a path and what methods it has.
-/

namespace WorldClock

/-- What the server says of its health. -/
def healthJson (uptime : Duration) : Json :=
  .obj [("status", .str "healthy"), ("uptime_seconds", .int (uptime / nanosPerSecond))]

/-- What the server says of its version. -/
def versionJson : Json :=
  .obj [
    ("name", .str serverName),
    ("version", .str serverVersion),
    ("mcp_version", .str latestRevision)]

/-- The headers of a request for a method that a route does not have. -/
def Route.listMethods (route : Route) (method : String) (response : HttpResponse) :
    HttpResponse :=
  if route.methods.contains method then response else response.withHeader "allow" route.allow

namespace Hub

/-- Answers a request for a route by a method of the route. -/
def serve (hub : Hub) (arrival : Arrival) (query : Bytes) (route : Route) : Hub × Reaction :=
  match route with
  | .health => (hub, .response (.json 200 (healthJson hub.time)))
  | .version => (hub, .response (.json 200 versionJson))
  | .events =>
    match hub.announcementFault? arrival.freshId with
    | some cause => (hub.strandSession arrival.freshId, .stopped cause)
    | none =>
      if arrival.request.method = "HEAD" then (hub, .response streamResponse)
      else hub.openStream arrival.freshId
  | .messages => hub.postForStream arrival query
  | .rpc =>
    if arrival.request.method = "DELETE" then
      let (hub, response) := hub.delete arrival.request
      (hub, .response response)
    else hub.post arrival

/-- Answers a request for a route. -/
def route (hub : Hub) (arrival : Arrival) (query : Bytes) (route : Route) : Hub × Reaction :=
  let method := arrival.request.method
  if route.isGuarded && !arrival.request.isAuthorized hub.config.authToken then
    (hub, .response (route.listMethods method unauthorized))
  else if !route.methods.contains method then
    (hub, .response (route.listMethods method (.bare 405)))
  else hub.serve arrival query route

/-- Completes the response to a request for a route: there is no body if the route has the method
`HEAD` and that was the method, and pages from everywhere may read it. -/
def complete (route : Route) (method : String) (response : HttpResponse) : HttpResponse :=
  (if method = "HEAD" && route.methods.contains method then response.withoutBody
    else response).shared

/-- Answers a request. -/
def request (hub : Hub) (arrival : Arrival) : Hub × Reaction :=
  let target := Target.ofText arrival.request.target
  let method := arrival.request.method
  let found := Route.ofPath? hub.config.transport target.path
  if method = "OPTIONS" then (hub, .response (preflight found))
  else match found with
  | none => (hub, .response (HttpResponse.bare 404).shared)
  | some route =>
    let (hub, reaction) := hub.route arrival target.query route
    (hub, reaction.mapResponse (complete route method))

end Hub

end WorldClock
