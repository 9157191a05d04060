import WorldClock.Mcp.Server
import WorldClock.Stdio.Reader
/-!
# The conversation on standard input and output

One session carries all messages, one on each line. Blank lines are no messages. Replies are lines
too, in the order of the messages.
-/

namespace WorldClock

/-- A conversation: the server, whether the client has greeted it, the replies so far with the last
one first, and why the server came to a stop, if it did. -/
structure Conversation where
  server : Server
  greeted : Bool
  replies : List Response
  stopped : Option Breakdown

namespace Conversation

/-- A conversation before the first line. -/
def start (toolTimeout : Duration) (zones : ZoneTable := Zone.find?) : Conversation :=
  ⟨.start toolTimeout zones, false, [], none⟩

/-- Handles what is kept of a line, unless the server has come to a stop. -/
def hear (conversation : Conversation) (moment : Moment) (kept : Bytes) : Conversation :=
  if conversation.stopped.isSome || isBlankLine kept then conversation
  else
    let turn := conversation.server.handle moment conversation.greeted kept
    let conversation := { conversation with server := turn.server, greeted := turn.greeted }
    match turn.answer with
    | .silence => conversation
    | .reply response => { conversation with replies := response :: conversation.replies }
    | .stopped cause => { conversation with stopped := some cause }

/-- The conversation after some lines, of each of which the beginning is heard. Lines are numbered,
and each one is heard at a moment of its own. -/
def hearLines (conversation : Conversation) (moments : Nat → Moment) (number : Nat) :
    List Bytes → Conversation
  | [] => conversation
  | line :: lines =>
    hearLines (conversation.hear (moments number) (keptOf line)) moments (number + 1) lines

/-- The conversation after all lines of a stream, each heard at the same moment. -/
def hearAll (conversation : Conversation) (moment : Moment) (stream : Bytes) : Conversation :=
  conversation.hearLines (fun _ => moment) 0 (linesOf stream)

/-- The conversation after a stream that arrives in pieces, of whose first line, which has a number,
a part has been read. -/
def hearPieces (conversation : Conversation) (moments : Nat → Moment) (number : Nat)
    (reader : LineReader) : List Bytes → Conversation
  | [] =>
    if reader.kept.isEmpty then conversation else conversation.hear (moments number) reader.kept
  | piece :: pieces =>
    match h : reader.feed piece with
    | .more reader => hearPieces conversation moments number reader pieces
    | .done kept rest =>
      have := LineReader.length_lt_of_feed h
      hearPieces (conversation.hear (moments number) kept) moments (number + 1) .start
        (rest :: pieces)
termination_by pieces => (pieces.flatten.length, pieces.length)
decreasing_by
  · simp only [List.flatten_cons, List.length_append, List.length_cons, Prod.lex_def]
    omega
  · simp only [List.flatten_cons, List.length_append, Prod.lex_def]
    omega

/-- What the server writes: the replies in order, each on a line. -/
def written (conversation : Conversation) : String :=
  String.join (conversation.replies.reverse.map fun response => response.text ++ "\n")

end Conversation

end WorldClock
