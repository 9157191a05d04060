import WorldClock.Text.Blank
import WorldClock.Time.Fields
/-!
# Layouts of local times

The forms in which a local time can be written, as lists of pieces. Reading is lenient within a
piece: blanks may stand before a number, numbers may have fewer digits than usual, a year may have
a sign and then any number of digits, and a space of the layout may be any number of blanks, or
none.
-/

namespace WorldClock

open Text

/-- The numbers that a layout names. -/
inductive Field
  | year | month | day | hour | minute | second
deriving DecidableEq, Repr

/-- A piece of a layout. -/
inductive Piece
  /-- A number. -/
  | number (field : Field)
  /-- A character that stands for itself. -/
  | mark (c : Char)
  /-- Any number of blank characters. -/
  | blanks
  /-- A fraction of a second, or nothing. -/
  | fraction
deriving DecidableEq, Repr

/-- The pieces of a written local time, from first to last. -/
abbrev Layout := List Piece

/-! ### Reading -/

/-- A number of years that leads out of the range of the calendar, forward or back. -/
def manyYears : Nat := 300000

/-- The number of years in a run of digits. Numbers beyond the range of the calendar all pass for
the same one. -/
def yearsOf (digits : List Char) : Int :=
  numberUpTo manyYears digits

/-- Reads a year: up to four digits, or a sign and any number of digits. -/
def readYear : List Char → Option (Int × List Char)
  | '-' :: cs => (someDigits cs).map fun (digits, rest) => (-yearsOf digits, rest)
  | '+' :: cs => (someDigits cs).map fun (digits, rest) => (yearsOf digits, rest)
  | cs => (fewDigits 4 cs).map fun (year, rest) => ((year : Int), rest)

/-- Reads a number and notes it. -/
def Field.read (field : Field) (fields : Fields) (cs : List Char) :
    Option (Fields × List Char) :=
  match field with
  | .year => (readYear (dropBlanks cs)).map fun (n, rest) => ({ fields with year := n }, rest)
  | .month => (fewDigits 2 (dropBlanks cs)).map fun (n, rest) =>
    ({ fields with month := n }, rest)
  | .day => (fewDigits 2 (dropBlanks cs)).map fun (n, rest) => ({ fields with day := n }, rest)
  | .hour => (fewDigits 2 (dropBlanks cs)).map fun (n, rest) => ({ fields with hour := n }, rest)
  | .minute => (fewDigits 2 (dropBlanks cs)).map fun (n, rest) =>
    ({ fields with minute := n }, rest)
  | .second => (fewDigits 2 (dropBlanks cs)).map fun (n, rest) =>
    ({ fields with second := n }, rest)

/-- Reads one piece of a layout. -/
def Piece.read (piece : Piece) (fields : Fields) (cs : List Char) :
    Option (Fields × List Char) :=
  match piece with
  | .number field => field.read fields cs
  | .mark c => (Text.mark c cs).map fun rest => (fields, rest)
  | .blanks => some (fields, dropBlanks cs)
  | .fraction => (readFraction cs).map fun (n, rest) => ({ fields with nanos := n }, rest)

namespace Layout

/-- Reads the pieces of a layout one after another. -/
def read : Layout → Fields → List Char → Option (Fields × List Char)
  | [], fields, cs => some (fields, cs)
  | piece :: layout, fields, cs => do
    let (fields, rest) ← piece.read fields cs
    read layout fields rest

/-- The local time that a whole text denotes in a layout. -/
def localTime? (layout : Layout) (cs : List Char) : Option LocalTime :=
  match layout.read {} cs with
  | some (fields, []) => fields.localTime?
  | _ => none

/-! ### The accepted layouts -/

/-- Year, month and day, joined by dashes. -/
def date : Layout :=
  [.number .year, .mark '-', .number .month, .mark '-', .number .day]

/-- Hour and minute, joined by a colon. -/
def minutes : Layout :=
  [.number .hour, .mark ':', .number .minute]

/-- Hour, minute and second, joined by colons. -/
def seconds : Layout :=
  minutes ++ [.mark ':', .number .second]

/-- The layouts in which a local time is accepted, in the order in which they are tried. -/
def accepted : List Layout := [
  date ++ [.mark 'T'] ++ seconds,
  date ++ [.mark 'T'] ++ seconds ++ [.fraction],
  date ++ [.mark 'T'] ++ minutes,
  date ++ [.blanks] ++ seconds,
  date ++ [.blanks] ++ seconds ++ [.fraction],
  date ++ [.blanks] ++ minutes]

/-- The local time that a text denotes in the first layout that fits. -/
def firstLocalTime? (layouts : List Layout) (cs : List Char) : Option LocalTime :=
  layouts.findSome? (localTime? · cs)

end Layout

end WorldClock
