import WorldClock.Config.Basic
import WorldClock.Mcp.Version
/-!
# Flags

The flags of the command line, the variables of the environment that stand in for them, and the
values that they take. `Settings` holds the values that were given.
-/

namespace WorldClock

/-- The flags, in the order in which their variables are read. -/
inductive Flag
  | transport | port | listen | addr | publicUrl | authToken | logLevel | logJson | toolTimeout
  | sessionTtl
deriving DecidableEq, Repr

namespace Flag

/-- All flags. -/
def all : List Flag :=
  [transport, port, listen, addr, publicUrl, authToken, logLevel, logJson, toolTimeout, sessionTtl]

/-- The name of a flag, without dashes. -/
def name : Flag → String
  | transport => "transport"
  | port => "port"
  | listen => "listen"
  | addr => "addr"
  | publicUrl => "public-url"
  | authToken => "auth-token"
  | logLevel => "log-level"
  | logJson => "log-json"
  | toolTimeout => "tool-timeout-secs"
  | sessionTtl => "session-ttl-secs"

/-- The name of a flag for its value: upper case, with bars between words. -/
def valueName : Flag → String
  | transport => "TRANSPORT"
  | port => "PORT"
  | listen => "LISTEN"
  | addr => "ADDR"
  | publicUrl => "PUBLIC_URL"
  | authToken => "AUTH_TOKEN"
  | logLevel => "LOG_LEVEL"
  | logJson => "LOG_JSON"
  | toolTimeout => "TOOL_TIMEOUT_SECS"
  | sessionTtl => "SESSION_TTL_SECS"

/-- The flag with a name. -/
def ofName? (name : String) : Option Flag :=
  all.find? fun flag => flag.name == name

/-- The variable that stands in for a flag. -/
def variableName (flag : Flag) : String :=
  "FAST_TIME_" ++ flag.valueName

/-- Whether a flag takes a value on the command line. -/
def takesValue : Flag → Bool
  | logJson => false
  | _ => true

end Flag

/-! ### What can go wrong -/

/-- Why a configuration cannot be used though it can be read. -/
inductive ConfigFault
  | zeroToolTimeout
  | zeroSessionTtl
  | badPublicUrl (url : String)
  | emptyListen
deriving DecidableEq, Repr

/-- The text that explains a fault. -/
def ConfigFault.message : ConfigFault → String
  | zeroToolTimeout => "tool timeout must be a positive number of seconds"
  | zeroSessionTtl => "session TTL must be a positive number of seconds"
  | badPublicUrl url => s!"public URL must start with http:// or https://: {url}"
  | emptyListen => "listen address must not be empty"

/-- Why no configuration comes of a command line. -/
inductive ConfigError
  | unknownArgument (argument : String)
  /-- A value that is not one of those that a flag takes, or is missing. -/
  | invalidValue (flag : Flag) (value : String)
  /-- A value that is not a number of the range that a flag takes. -/
  | badNumber (flag : Flag) (value : String)
  | unexpectedValue (argument value : String)
  | repeated (flag : Flag)
  | help
  | version
  | unusable (fault : ConfigFault)
deriving DecidableEq, Repr

namespace ConfigError

/-- The text that explains why there is no configuration, as far as it is the server's own. What is
wrong with the form of a command line, and which flags there are, is told by whoever reads it. -/
def message? : ConfigError → Option String
  | version => some s!"{serverName} {serverVersion}\n"
  | unusable fault => some s!"error: {fault.message}\n"
  | _ => none

/-- Whether the server only tells what it was asked for. -/
def isInformation : ConfigError → Bool
  | help | version => true
  | _ => false

/-- The exit code of the program. -/
def exitCode (error : ConfigError) : Nat :=
  if error.isInformation then 0 else 2

end ConfigError

/-! ### Values -/

/-- The number below a bound that a text denotes: decimal digits, perhaps after a plus sign. -/
def readNumber (bound : Nat) (text : String) : Option Nat := do
  let cs := match text.toList with
    | '+' :: cs => cs
    | cs => cs
  match Text.someDigits cs with
  | some (digits, []) =>
    let number := Text.numberUpTo bound digits
    guard (number < bound)
    some number
  | _ => none

/-- The number of a port that a text denotes. -/
def readPort (text : String) : Option Nat :=
  readNumber 0x10000 text

/-- The number of a port that the value of a flag denotes. Zero may have a minus sign. -/
def readPortFlag (text : String) : Option Nat :=
  match text.toList with
  | '-' :: cs => if !cs.isEmpty && cs.all (· == '0') then some 0 else none
  | _ => readPort text

/-- The number of seconds that a text denotes. -/
def readSeconds (text : String) : Option Nat :=
  readNumber 0x10000000000000000 text

/-- The truth value that a text denotes. -/
def readBool : String → Option Bool
  | "true" => some true
  | "false" => some false
  | _ => none

/-- The values that were given for flags. Those of times are in seconds. -/
structure Settings where
  transport : Option Transport
  port : Option Nat
  listen : Option String
  addr : Option String
  publicUrl : Option String
  authToken : Option String
  logLevel : Option LogLevel
  logJson : Option Bool
  toolTimeout : Option Nat
  sessionTtl : Option Nat
deriving DecidableEq, Repr

namespace Settings

/-- No values. -/
def empty : Settings :=
  ⟨none, none, none, none, none, none, none, none, none, none⟩

/-- Whether a value was given for a flag. -/
def has (settings : Settings) : Flag → Bool
  | .transport => settings.transport.isSome
  | .port => settings.port.isSome
  | .listen => settings.listen.isSome
  | .addr => settings.addr.isSome
  | .publicUrl => settings.publicUrl.isSome
  | .authToken => settings.authToken.isSome
  | .logLevel => settings.logLevel.isSome
  | .logJson => settings.logJson.isSome
  | .toolTimeout => settings.toolTimeout.isSome
  | .sessionTtl => settings.sessionTtl.isSome

/-- The value that a text denotes, or else an error. -/
def require {α : Type} (error : ConfigError) : Option α → Except ConfigError α
  | some value => .ok value
  | none => .error error

/-- Takes over the value of a flag. -/
def put (settings : Settings) (flag : Flag) (text : String) : Except ConfigError Settings :=
  match flag with
  | .transport => do
    let value ← require (.invalidValue flag text) (Transport.ofName? text)
    .ok { settings with transport := some value }
  | .port => do
    let value ← require (.badNumber flag text) (readPortFlag text)
    .ok { settings with port := some value }
  | .listen => .ok { settings with listen := some text }
  | .addr => .ok { settings with addr := some text }
  | .publicUrl => .ok { settings with publicUrl := some text }
  | .authToken => .ok { settings with authToken := some text }
  | .logLevel => do
    let value ← require (.invalidValue flag text) (LogLevel.ofName? text)
    .ok { settings with logLevel := some value }
  | .logJson => do
    let value ← require (.invalidValue flag text) (readBool text)
    .ok { settings with logJson := some value }
  | .toolTimeout => do
    let value ← require (.badNumber flag text) (readSeconds text)
    .ok { settings with toolTimeout := some value }
  | .sessionTtl => do
    let value ← require (.badNumber flag text) (readSeconds text)
    .ok { settings with sessionTtl := some value }

end Settings

end WorldClock
