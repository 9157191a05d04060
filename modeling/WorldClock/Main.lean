import Std.Time.DateTime.Timestamp
import WorldClock.Config.Address
import WorldClock.Config.Resolve
import WorldClock.Stdio.Conversation
/-!
# The program

Reads the configuration from the command line and the environment, and serves standard input and
output. Everything that is decided is decided elsewhere; here are only the readings of the clock,
the input and the output.
-/

namespace WorldClock.Main

/-- The instant that the system clock shows. -/
def now : IO Instant := do
  let nanos := (← Std.Time.Timestamp.now).toNanosecondsSinceUnixEpoch.val
  match Instant.of? (nanos / nanosPerSecond) (nanos % nanosPerSecond).toNat with
  | some instant => return instant
  | none => throw (IO.userError "the clock is out of range")

/-- The variables of the environment that stand in for flags. -/
def readEnvironment : IO Environment := do
  let values ← Flag.all.mapM fun flag => do
    return (flag.variableName, ← IO.getEnv flag.variableName)
  return fun name => (values.lookup name).join

/-- Handles a line and writes the reply to it. The line is handled once beforehand to see how long
that takes. -/
def hear (conversation : Conversation) (line : Bytes) : IO Conversation := do
  let now ← now
  let started ← IO.monoNanosNow
  let rehearsed ← IO.lazyPure fun _ => conversation.hear ⟨now, 0⟩ line
  IO.eprint (if rehearsed.stopped.isSome then "fast-time-server: result out of range\n" else "")
  let stopped ← IO.monoNanosNow
  let conversation := conversation.hear ⟨now, stopped - started⟩ line
  let stdout ← IO.getStdout
  stdout.putStr conversation.written
  stdout.flush
  return { conversation with replies := [] }

/-- Handles the lines that end in a piece of the input. -/
def hearPiece (conversation : Conversation) (reader : LineReader) (piece : Bytes) :
    IO (Conversation × LineReader) :=
  match h : reader.feed piece with
  | .more reader => return (conversation, reader)
  | .done kept rest => do
    have := LineReader.length_lt_of_feed h
    hearPiece (← hear conversation kept) .start rest
termination_by piece.length

/-- Reads bytes up to the end of a line, or up to a number of bytes. Nothing beyond the line is
waited for, as a client may wait for the reply to it. -/
def readPiece (stdin : IO.FS.Stream) : Nat → ByteArray → IO ByteArray
  | 0, piece => return piece
  | limit + 1, piece => do
    let byte ← stdin.read 1
    if byte.isEmpty || byte.toList.contains newline then return piece ++ byte
    readPiece stdin limit (piece ++ byte)

/-- Serves standard input until it ends or the server comes to a stop. -/
partial def serve (conversation : Conversation) (reader : LineReader) : IO UInt32 := do
  if conversation.stopped.isSome then return 1
  let piece ← readPiece (← IO.getStdin) 8192 .empty
  if piece.isEmpty then
    unless reader.kept.isEmpty do
      let _ ← hear conversation reader.kept
    return 0
  let (conversation, reader) ← hearPiece conversation reader piece.toList
  serve conversation reader

/-- Serves with a configuration. The network is left to a host that hands requests to the hub. -/
def run (config : Config) : IO UInt32 := do
  if config.transport.isNetwork then
    match Address.ofText config.bindAddress with
    | .error fault => IO.eprintln s!"{serverName}: fatal error: {fault.message}"
    | .ok _ => IO.eprintln s!"{serverName}: fatal error: no listener for {config.bindAddress}"
    return 1
  serve (.start config.toolTimeout) .start

end WorldClock.Main

open WorldClock in
/-- Runs the server. -/
def main (arguments : List String) : IO UInt32 := do
  match Config.ofArguments (serverName :: arguments) (← Main.readEnvironment) with
  | .ok config => Main.run config
  | .error error =>
    let text := error.message?.getD ""
    if error.isInformation then IO.print text else IO.eprint text
    return error.exitCode.toUInt32
