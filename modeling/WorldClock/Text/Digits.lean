/-!
# Decimal digits

Runs of the ten ASCII digits as texts and as numbers.
-/

namespace WorldClock.Text

/-- The value of a decimal digit. -/
def digitValue (c : Char) : Nat :=
  c.toNat - '0'.toNat

/-- The number that a run of decimal digits denotes. The empty run denotes 0. -/
def numberOf (digits : List Char) : Nat :=
  digits.foldl (fun n c => 10 * n + digitValue c) 0

/-- The number that a run of decimal digits denotes, or one more than a limit if it exceeds the
limit, so that a long run stays as cheap as a short one. -/
def numberUpTo (limit : Nat) (digits : List Char) : Nat :=
  digits.foldl (fun n c => min (limit + 1) (10 * n + digitValue c)) 0

/-- The decimal digits of a number, without leading zeros. -/
def decimal (n : Nat) : List Char :=
  Nat.toDigits 10 n

/-- The decimal digits of a number, with zeros in front up to a width. -/
def padded (width n : Nat) : List Char :=
  List.replicate (width - (decimal n).length) '0' ++ decimal n

/-- The decimal text of an integer, with a sign only if it is negative. -/
def integer (n : Int) : List Char :=
  if n < 0 then '-' :: decimal n.natAbs else decimal n.natAbs

/-- Reads exactly `count` digits. -/
def exactDigits (count : Nat) (cs : List Char) : Option (Nat × List Char) :=
  if (cs.take count).length = count ∧ (cs.take count).all Char.isDigit then
    some (numberOf (cs.take count), cs.drop count)
  else none

/-- Reads a run of at least one and at most `limit` digits, as long as there are. -/
def fewDigits (limit : Nat) (cs : List Char) : Option (Nat × List Char) :=
  match (cs.take limit).takeWhile Char.isDigit with
  | [] => none
  | digits => some (numberOf digits, cs.drop digits.length)

/-- Reads a run of at least one digit, as long as there are. -/
def someDigits (cs : List Char) : Option (List Char × List Char) :=
  match cs.takeWhile Char.isDigit with
  | [] => none
  | digits => some (digits, cs.dropWhile Char.isDigit)

/-- Reads one given character. -/
def mark (c : Char) : List Char → Option (List Char)
  | [] => none
  | d :: cs => if d = c then some cs else none

end WorldClock.Text
