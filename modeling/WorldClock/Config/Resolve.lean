import WorldClock.Config.CommandLine
import WorldClock.Text.Blank
/-!
# Making a configuration

Flags on the command line come before variables of the environment, and these before the standard
values. The variable of a flag on the command line is not even looked at. What was given is then
checked and tidied up, so that the configuration can be used.
-/

namespace WorldClock

/-- The variables of the environment by name. -/
abbrev Environment := String → Option String

/-! ### The environment -/

/-- Takes over the variable of a flag that has no value yet. -/
def Settings.putVariable (env : Environment) (given settings : Settings) (flag : Flag) :
    Except ConfigError Settings :=
  match env flag.variableName with
  | some text => if given.has flag then .ok settings else settings.put flag text
  | none => .ok settings

/-- Takes over the variables of all flags that have no value yet. -/
def Settings.complete (env : Environment) (given : Settings) : Except ConfigError Settings :=
  Flag.all.foldlM (Settings.putVariable env given) given

/-! ### Checks -/

/-- A text without the slashes at its end. -/
def dropSlashes (text : String) : String :=
  String.ofList (text.toList.reverse.dropWhile (· == '/')).reverse

/-- Whether a text begins like the address of a web server. -/
def isWebAddress (text : String) : Bool :=
  "http://".toList.isPrefixOf text.toList || "https://".toList.isPrefixOf text.toList

/-- The public address that a text denotes: none if it is blank. -/
def readPublicUrl (text : String) : Except ConfigFault (Option String) :=
  let url := Text.trim text
  if url = "" then .ok none
  else if isWebAddress url then .ok (some (dropSlashes url))
  else .error (.badPublicUrl url)

/-- The configuration that settings give, with the standard values for all else. -/
def Settings.check (settings : Settings) : Except ConfigFault Config := do
  let toolTimeout := (settings.toolTimeout.map (· * nanosPerSecond)).getD
    Config.standard.toolTimeout
  let sessionTtl := (settings.sessionTtl.map (· * nanosPerSecond)).getD Config.standard.sessionTtl
  if toolTimeout = 0 then .error .zeroToolTimeout
  if sessionTtl = 0 then .error .zeroSessionTtl
  let listen := Text.trim (settings.listen.getD Config.standard.listen)
  if listen = "" then .error .emptyListen
  let publicUrl ← match settings.publicUrl with
    | some text => readPublicUrl text
    | none => .ok none
  .ok {
    transport := settings.transport.getD Config.standard.transport
    listen
    port := settings.port.getD Config.standard.port
    addr := settings.addr.filter fun addr => Text.trim addr ≠ ""
    publicUrl
    authToken := settings.authToken.filter (· ≠ "")
    logLevel := settings.logLevel.getD Config.standard.logLevel
    logJson := settings.logJson.getD Config.standard.logJson
    toolTimeout
    sessionTtl }

/-- The configuration that the arguments of the program and the environment give. -/
def Config.ofArguments (arguments : List String) (env : Environment) :
    Except ConfigError Config := do
  let given ← CommandLine.settingsOf arguments
  let settings ← given.complete env
  match settings.check with
  | .ok config => .ok config
  | .error fault => .error (.unusable fault)

end WorldClock
