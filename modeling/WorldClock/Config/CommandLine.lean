import WorldClock.Config.Flag
/-!
# Command lines

Reading of the arguments of the server. A long flag may be written with one dash or with two. Its
value follows a `=` or is the next argument. Arguments are read from left to right, and the first
one that is wrong decides the error. The value in an argument of its own is looked at only when the
next flag is reached, or the end.
-/

namespace WorldClock

/-! ### One dash and two -/

/-- Puts a second dash in front of a flag with one dash and more than one letter. -/
def doubleDash (argument : String) : String :=
  match argument.toList with
  | '-' :: c :: _ => if c ≠ '-' ∧ 2 < argument.utf8ByteSize then "-" ++ argument else argument
  | _ => argument

/-- Puts a second dash in front of the flags up to a lone pair of dashes. -/
def doubleDashes : List String → List String
  | [] => []
  | argument :: rest =>
    if argument = "--" then argument :: rest else doubleDash argument :: doubleDashes rest

/-- The arguments with two dashes in front of all long flags. The name of the program comes first
and stays as it is. -/
def normalizeFlags : List String → List String
  | [] => []
  | program :: arguments => program :: doubleDashes arguments

/-! ### Single arguments -/

/-- An argument by its form. -/
inductive Argument
  /-- A lone pair of dashes, after which there are no more flags. -/
  | dashes
  | long (name : String) (value : Option String)
  | short (text : String)
  | plain (text : String)
deriving DecidableEq, Repr

/-- The form of an argument. -/
def Argument.ofText (text : String) : Argument :=
  match text.toList with
  | ['-', '-'] => dashes
  | '-' :: '-' :: body =>
    let name := String.ofList (body.takeWhile (· != '='))
    match body.dropWhile (· != '=') with
    | [] => long name none
    | _ :: value => long name (some (String.ofList value))
  | '-' :: _ :: _ => short text
  | _ => plain text

/-! ### Reading -/

/-- A flag that was named and whose value is not yet taken over, if it is there. -/
structure OpenFlag where
  flag : Flag
  value : Option String
deriving DecidableEq, Repr

/-- A command line read up to some point. -/
structure CommandLine where
  settings : Settings
  openFlag : Option OpenFlag
  flagsEnded : Bool
deriving DecidableEq, Repr

namespace CommandLine

/-- A command line before the first argument. -/
def start : CommandLine := ⟨.empty, none, false⟩

/-- Takes over the value of a flag that may be given once. -/
def give (settings : Settings) (flag : Flag) (value : String) : Except ConfigError Settings :=
  if settings.has flag then .error (.repeated flag) else settings.put flag value

/-- Takes over the value of the flag named before, which now must be there. -/
def settle (line : CommandLine) : Except ConfigError Settings :=
  match line.openFlag with
  | none => .ok line.settings
  | some ⟨flag, none⟩ => .error (.invalidValue flag "")
  | some ⟨flag, some value⟩ => give line.settings flag value

/-- Reads a flag with its value, if the value is part of the argument. -/
def readFlag (line : CommandLine) (flag : Flag) (value : Option String) :
    Except ConfigError CommandLine :=
  match flag.takesValue, value with
  | true, some value => do
    let settings ← line.settle
    let settings ← give settings flag value
    .ok { line with settings, openFlag := none }
  | true, none => do
    let settings ← line.settle
    .ok { line with settings, openFlag := some ⟨flag, none⟩ }
  | false, some value => .error (.unexpectedValue s!"--{flag.name}" value)
  | false, none => do
    let settings ← line.settle
    let settings ← give settings flag "true"
    .ok { line with settings, openFlag := none }

/-- Ends the reading with a request for information, if all is well up to it. -/
def inform (line : CommandLine) (request : ConfigError) : Except ConfigError CommandLine := do
  let _ ← line.settle
  .error request

/-- Reads a long flag. -/
def readLong (line : CommandLine) (name : String) (value : Option String) :
    Except ConfigError CommandLine :=
  match Flag.ofName? name, name, value with
  | some flag, _, value => line.readFlag flag value
  | none, "help", none => line.inform .help
  | none, "version", none => line.inform .version
  | none, "help", some value | none, "version", some value =>
    .error (.unexpectedValue s!"--{name}" value)
  | none, _, _ => .error (.unknownArgument s!"--{name}")

/-- Reads an argument. -/
def read (line : CommandLine) (text : String) : Except ConfigError CommandLine :=
  if line.flagsEnded then .error (.unknownArgument text)
  else match Argument.ofText text with
  | .dashes => .ok { line with flagsEnded := true }
  | .long name value => line.readLong name value
  | .short "-h" => line.inform .help
  | .short "-V" => line.inform .version
  | .short text => .error (.unknownArgument text)
  | .plain text =>
    match line.openFlag with
    | some ⟨flag, none⟩ => .ok { line with openFlag := some ⟨flag, some text⟩ }
    | _ => .error (.unknownArgument text)

/-- The values that the arguments of a program give for flags. The name of the program comes
first. -/
def settingsOf (arguments : List String) : Except ConfigError Settings := do
  let line ← ((normalizeFlags arguments).drop 1).foldlM read start
  line.settle

end CommandLine

end WorldClock
