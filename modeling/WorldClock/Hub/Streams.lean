import WorldClock.Hub.Basic
/-!
# Streams of events

A stream begins with an event that tells where to post messages. Then come the replies to these, one
event for each. A stream on which nothing is read for a while gives a sign of life. It ends when its
session has ended and all replies have been read.
-/

namespace WorldClock

/-- How many replies an outbox has room for. -/
def outboxCapacity : Nat := 64

/-- How long a stream may be silent. -/
def silenceLimit : Duration := 15 * nanosPerSecond

/-- Data as an event shows it: each line begins with the name of the field. -/
def dataLines (data : String) : String :=
  String.ofList (data.toList.flatMap fun c => if c = '\n' then "\ndata: ".toList else [c])

/-- The text of an event. -/
def eventText (name data : String) : String :=
  s!"event: {name}\ndata: {dataLines data}\n\n"

/-- The number of bytes in front of the first carriage return, counted from the start of its line.
So many bytes of the line have come before. -/
def carriageReturn? (position : Nat) : List Char → Option Nat
  | [] => none
  | '\r' :: _ => some position
  | '\n' :: rest => carriageReturn? 0 rest
  | c :: rest => carriageReturn? (position + c.utf8Size) rest

/-- The text that is read when there is nothing to read. -/
def signOfLife : String := ":\n\n"

/-- What a look at a stream shows. -/
inductive Glance
  | frame (text : String)
  | nothing
  | ended
deriving DecidableEq, Repr

/-- What a look at a stream gives: what it shows, and the ticket of a reply for which it made
room. -/
structure Look where
  glance : Glance
  movedIn : Option Ticket

namespace Hub

/-- The headers of a stream. -/
def streamResponse : HttpResponse :=
  ⟨200, [("content-type", "text/event-stream"), ("cache-control", "no-cache")], ""⟩

/-- The address to which messages for the session with an id are posted. -/
def endpoint (hub : Hub) (id : String) : String :=
  endpointUrl hub.config.publicUrl id

/-- Why no stream can be opened for the session with an id, if so: a line of an event cannot hold a
carriage return. -/
def announcementFault? (hub : Hub) (id : String) : Option Breakdown :=
  (carriageReturn? 0 (hub.endpoint id).toList).map .carriageReturn

/-- Opens a stream with a session of its own. -/
def openStream (hub : Hub) (freshId : String) : Hub × Reaction :=
  let stream : EventStream := ⟨hub.sessions.length, false, hub.time, true⟩
  let opened := hub.openSession freshId (.sse (.ofCapacity outboxCapacity)) false
  ({ opened with streams := hub.streams ++ [stream] },
    .stream streamResponse hub.streams.length)

/-- Registers a session for a stream that cannot be opened, as there is no way to write its first
event. Nobody reads what the session sends, and nothing ends the session with the stream. -/
def strandSession (hub : Hub) (freshId : String) : Hub :=
  hub.openSession freshId (.sse (Outbox.ofCapacity outboxCapacity).close.1) false

/-- Notes that something was read on a stream. -/
def noteFrame (hub : Hub) (number : StreamNumber) : Hub :=
  { hub with
    streams := hub.streams.modify number fun stream =>
      { stream with announced := true, lastFrame := hub.time } }

/-- Looks at an open stream with its session. -/
def lookAt (hub : Hub) (number : StreamNumber) (stream : EventStream) (session : Session) :
    Hub × Look :=
  if !stream.announced then
    (hub.noteFrame number,
      ⟨.frame (eventText "endpoint" (hub.endpoint session.id)), none⟩)
  else match session.receive with
  | .received response session movedIn =>
    ({ hub with sessions := hub.sessions.set stream.session session }.noteFrame number,
      ⟨.frame (eventText "message" response.text), movedIn⟩)
  | .empty =>
    if silenceLimit ≤ hub.time - stream.lastFrame then
      (hub.noteFrame number, ⟨.frame signOfLife, none⟩)
    else (hub, ⟨.nothing, none⟩)
  | .closed | .noReader => (hub, ⟨.ended, none⟩)

/-- The open stream with a number, with its session. -/
def stream? (hub : Hub) (number : StreamNumber) : Option (EventStream × Session) := do
  let stream ← hub.streams[number]?
  guard stream.isOpen
  let session ← hub.sessions[stream.session]?
  some (stream, session)

/-- Looks at a stream. What is shown counts as read. -/
def look (hub : Hub) (number : StreamNumber) : Hub × Look :=
  match hub.stream? number with
  | some (stream, session) => hub.lookAt number stream session
  | none => (hub, ⟨.ended, none⟩)

/-- All that is read from a stream at once: the frames, whether the stream has ended, and the
tickets of the replies that found room. -/
structure Harvest where
  frames : List String
  ended : Bool
  movedIn : List Ticket

/-- Looks at a stream a limited number of times, as long as there is something to read. -/
def readUpTo : Nat → Hub → StreamNumber → Hub × Harvest
  | 0, hub, _ => (hub, ⟨[], false, []⟩)
  | limit + 1, hub, number =>
    match hub.look number with
    | (hub, ⟨.nothing, _⟩) => (hub, ⟨[], false, []⟩)
    | (hub, ⟨.ended, _⟩) => (hub, ⟨[], true, []⟩)
    | (hub, ⟨.frame text, movedIn⟩) =>
      let (hub, harvest) := readUpTo limit hub number
      (hub, ⟨text :: harvest.frames, harvest.ended, movedIn.toList ++ harvest.movedIn⟩)

/-- How many looks at a stream show all that there is to read: one for each reply, and three for the
first event, the sign of life, and the end. -/
def looksNeeded (hub : Hub) (number : StreamNumber) : Nat :=
  match (hub.stream? number).bind fun entry => entry.2.outbox? with
  | some outbox => outbox.queue.length + outbox.line.length + 3
  | none => 1

/-- Reads all that there is to read on a stream. -/
def read (hub : Hub) (number : StreamNumber) : Hub × Harvest :=
  readUpTo (hub.looksNeeded number) hub number

/-- The reader of a stream goes away, and with it its session. The replies on their way are lost.
Returns the tickets of those that stood in line. -/
def closeStream (hub : Hub) (number : StreamNumber) : Hub × List Ticket :=
  match hub.stream? number with
  | none => (hub, [])
  | some (stream, session) =>
    let (session, refused) := session.stopReading
    let sessions := hub.sessions.set stream.session session
    ({ hub with
        sessions := Sessions.remove sessions session.id .sse
        streams := hub.streams.modify number fun stream => { stream with isOpen := false } },
      refused)

end Hub

end WorldClock
