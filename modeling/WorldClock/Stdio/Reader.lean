import WorldClock.Stdio.Line
/-!
# Reading lines from pieces

A stream that arrives in pieces is read line by line, without keeping more of a line than is needed.
First bytes are kept until the line ends or enough of it is kept; then the rest of the line is
passed over. Where the pieces begin and end does not show in the lines.
-/

namespace WorldClock

/-- A line that has been read in part. -/
inductive LineReader
  /-- All bytes so far are kept. -/
  | keeping (kept : Bytes)
  /-- Enough bytes are kept, and the rest of the line is passed over. -/
  | passing (kept : Bytes)

/-- How far a line has been read when a piece is used up or the line ends. -/
inductive Progress
  | more (reader : LineReader)
  /-- The line has ended, and the piece goes on with other bytes. -/
  | done (kept rest : Bytes)

namespace LineReader

/-- A line of which nothing has been read. -/
def start : LineReader := keeping []

/-- What is kept of the line so far. -/
def kept : LineReader → Bytes
  | keeping kept => kept
  | passing kept => kept

/-- What follows the first newline of a piece, if there is one. -/
def afterNewline? (piece : Bytes) : Option Bytes :=
  match piece.dropWhile (· != newline) with
  | [] => none
  | _ :: rest => some rest

/-- Passes over bytes up to the end of the line. -/
def pass (kept piece : Bytes) : Progress :=
  match afterNewline? piece with
  | some rest => .done kept rest
  | none => .more (passing kept)

/-- Reads a piece, up to the end of the line. -/
def feed (reader : LineReader) (piece : Bytes) : Progress :=
  match reader with
  | passing kept => pass kept piece
  | keeping kept =>
    let room := keptBytes - kept.length
    let near := piece.take room
    match afterNewline? near with
    | some rest => .done (kept ++ near.take (near.length - rest.length)) (rest ++ piece.drop room)
    | none =>
      if near.length < room then .more (keeping (kept ++ near))
      else pass (kept ++ near) (piece.drop room)

theorem length_lt_of_afterNewline {piece rest : Bytes} (h : afterNewline? piece = some rest) :
    rest.length < piece.length := by
  have hle := (List.dropWhile_sublist (· != newline) (l := piece)).length_le
  unfold afterNewline? at h
  split at h
  · simp at h
  · next heq =>
    cases h
    rw [heq, List.length_cons] at hle
    omega

theorem length_lt_of_pass {kept kept' piece rest : Bytes} (h : pass kept piece = .done kept' rest) :
    rest.length < piece.length := by
  unfold pass at h
  split at h
  · next hrest =>
    cases h
    exact length_lt_of_afterNewline hrest
  · simp at h

/-- A line that ends within a piece uses up at least one byte of it. -/
theorem length_lt_of_feed {reader : LineReader} {piece kept rest : Bytes}
    (h : reader.feed piece = .done kept rest) : rest.length < piece.length := by
  cases reader with
  | passing => exact length_lt_of_pass h
  | keeping kept =>
    simp only [feed] at h
    split at h
    · next near hnear =>
      cases h
      have hlt := length_lt_of_afterNewline hnear
      simp only [List.length_take, List.length_append, List.length_drop] at hlt ⊢
      omega
    · split at h
      · simp at h
      · have hlt := length_lt_of_pass h
        simp only [List.length_drop] at hlt
        omega

/-- Reads the rest of a line from the pieces of a stream. Returns what is kept of the line, and the
pieces after it. -/
def readRest (reader : LineReader) : List Bytes → Bytes × List Bytes
  | [] => (reader.kept, [])
  | piece :: pieces =>
    match reader.feed piece with
    | .more reader => reader.readRest pieces
    | .done kept rest => (kept, rest :: pieces)

end LineReader

/-- Reads a line from the pieces of a stream. At the end of the stream the line has no bytes. -/
def readLine (pieces : List Bytes) : Bytes × List Bytes :=
  LineReader.start.readRest pieces

end WorldClock
