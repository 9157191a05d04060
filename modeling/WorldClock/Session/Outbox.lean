import WorldClock.Rpc.Message
/-!
# Outboxes

The replies that wait to be read from a stream of events. An outbox has room for a limited number of
replies. A reply for which there is no room stands in line outside, and moves in as soon as a reply
is taken out. Replies leave the outbox in the order in which they moved in.
-/

namespace WorldClock

/-- A number by which the sender of a reply knows it while it stands in line. -/
abbrev Ticket := Nat

/-- The replies on their way to the reader of a stream. -/
structure Outbox where
  capacity : Nat
  /-- The replies in the outbox, the next one first. -/
  queue : List Response
  /-- The replies that stand in line, in the order in which they came. -/
  line : List (Ticket × Response)
  /-- Whether there still is a reader. -/
  isRead : Bool

/-- Why a reply cannot be sent. -/
inductive SendError
  | noChannel | closed
deriving DecidableEq, Repr

namespace Outbox

/-- An outbox with nothing in it. -/
def ofCapacity (capacity : Nat) : Outbox := ⟨capacity, [], [], true⟩

/-- Whether a reply can move in. -/
def hasRoom (outbox : Outbox) : Bool :=
  outbox.queue.length < outbox.capacity

/-- Puts a reply into an outbox that has room. -/
def push (outbox : Outbox) (response : Response) : Outbox :=
  { outbox with queue := outbox.queue ++ [response] }

/-- Lets a reply stand in line. -/
def lineUp (outbox : Outbox) (ticket : Ticket) (response : Response) : Outbox :=
  { outbox with line := outbox.line ++ [(ticket, response)] }

/-- Takes a reply out of the line that nobody waits for any more. -/
def abandon (outbox : Outbox) (ticket : Ticket) : Outbox :=
  { outbox with line := outbox.line.filter fun entry => entry.1 != ticket }

/-- Lets the first reply of the line move in, if there is one and it has room. Returns its
ticket. -/
def moveIn (outbox : Outbox) : Outbox × Option Ticket :=
  match outbox.line with
  | [] => (outbox, none)
  | (ticket, response) :: line =>
    if outbox.hasRoom then ({ outbox with line }.push response, some ticket) else (outbox, none)

/-- Takes the next reply out. Returns also the ticket of the reply that moves in for it. -/
def next? (outbox : Outbox) : Option (Response × Outbox × Option Ticket) :=
  match outbox.queue with
  | [] => none
  | response :: queue => some (response, { outbox with queue }.moveIn)

/-- Ends the reading. The replies are lost, and those that stand in line are refused. Returns the
tickets of these. -/
def close (outbox : Outbox) : Outbox × List Ticket :=
  ({ outbox with queue := [], line := [], isRead := false }, outbox.line.map Prod.fst)

end Outbox

end WorldClock
