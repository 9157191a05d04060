import WorldClock.Rpc.Envelope
/-!
# Lines of bytes

How a stream of bytes falls into lines. A line ends with its newline, or with the stream. Of a long
line only the beginning is kept, one byte more than a message may have, so that a message that is
too long can still be told from one that is not.
-/

namespace WorldClock

/-- The byte that ends a line. -/
def newline : UInt8 := 10

/-- The most bytes that are kept of a line, with its newline. -/
def keptBytes : Nat := maxMessageBytes + 1

/-- Puts a byte in front of the lines that follow it. -/
def addByte (byte : UInt8) (lines : List Bytes) : List Bytes :=
  if byte = newline then [byte] :: lines
  else match lines with
    | [] => [[byte]]
    | line :: rest => (byte :: line) :: rest

/-- The lines of a stream, each with its newline if it has one. -/
def linesOf (stream : Bytes) : List Bytes :=
  stream.foldr addByte []

/-- What is kept of a line. -/
def keptOf (line : Bytes) : Bytes :=
  line.take keptBytes

/-- Whether a byte is a blank character of ASCII. -/
def isBlankByte (byte : UInt8) : Bool :=
  byte == 0x20 || byte == 0x09 || byte == 0x0A || byte == 0x0C || byte == 0x0D

/-- Whether a line has blank characters only. -/
def isBlankLine (line : Bytes) : Bool :=
  line.all isBlankByte

end WorldClock
