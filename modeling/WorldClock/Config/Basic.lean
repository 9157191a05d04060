import WorldClock.Metrics.Calls
import WorldClock.Text.Digits
/-!
# Configuration

What the server is told when it starts.
-/

namespace WorldClock

/-! ### Transports -/

/-- The ways in which messages come to the server. -/
inductive Transport
  /-- Lines on the standard input, answered on the standard output. -/
  | stdio
  /-- Messages posted to one address, answered on a stream of events. -/
  | sse
  /-- Messages posted to one address and answered right there. -/
  | http
  /-- Both ways over the network. -/
  | dual
deriving DecidableEq, Repr

namespace Transport

/-- All transports. -/
def all : List Transport := [stdio, sse, http, dual]

/-- The name of a transport. -/
def name : Transport → String
  | stdio => "stdio"
  | sse => "sse"
  | http => "http"
  | dual => "dual"

/-- The transport with a name. -/
def ofName? (name : String) : Option Transport :=
  all.find? fun transport => transport.name == name

/-- Whether a transport has streams of events. -/
def servesStreams : Transport → Bool
  | sse | dual => true
  | stdio | http => false

/-- Whether a transport answers messages where they are posted. -/
def servesHttp : Transport → Bool
  | http | dual => true
  | stdio | sse => false

/-- Whether a transport uses the network. -/
def isNetwork : Transport → Bool
  | stdio => false
  | sse | http | dual => true

end Transport

/-! ### Levels of the log -/

/-- How much the server logs. -/
inductive LogLevel
  | trace | debug | info | warn | error | none
deriving DecidableEq, Repr

namespace LogLevel

/-- All levels. -/
def all : List LogLevel := [trace, debug, info, warn, error, none]

/-- The name of a level. -/
def name : LogLevel → String
  | trace => "trace"
  | debug => "debug"
  | info => "info"
  | warn => "warn"
  | error => "error"
  | none => "none"

/-- The level with a name. -/
def ofName? (name : String) : Option LogLevel :=
  all.find? fun level => level.name == name

/-- The word by which the log knows a level. -/
def filter : LogLevel → String
  | none => "off"
  | level => level.name

end LogLevel

/-! ### The configuration -/

/-- A configuration. -/
structure Config where
  transport : Transport
  listen : String
  port : Nat
  /-- The full address to listen on, in place of `listen` and `port`. -/
  addr : Option String
  /-- The address under which clients reach the server. -/
  publicUrl : Option String
  /-- The token that clients must show. -/
  authToken : Option String
  logLevel : LogLevel
  logJson : Bool
  toolTimeout : Duration
  sessionTtl : Duration
deriving DecidableEq, Repr

namespace Config

/-- The configuration of a server that is told nothing. -/
def standard : Config where
  transport := .stdio
  listen := "0.0.0.0"
  port := 8080
  addr := none
  publicUrl := none
  authToken := none
  logLevel := .info
  logJson := false
  toolTimeout := 30 * nanosPerSecond
  sessionTtl := 1800 * nanosPerSecond

/-- The address to listen on. -/
def bindAddress (config : Config) : String :=
  config.addr.getD s!"{config.listen}:{config.port}"

end Config

/-- Where clients of a stream of events post their messages: below the public address, or else
relative to the address of the stream. -/
def endpointUrl (publicUrl : Option String) (sessionId : String) : String :=
  publicUrl.getD "" ++ "/messages?sessionId=" ++ sessionId

end WorldClock
