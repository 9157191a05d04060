import WorldClock.Json.Basic
import WorldClock.Text.Digits
/-!
# JSON numbers

A number as it is written, and the value it is read as. An integer that fits into 64 bits is read
exactly. Any other number is read as a floating-point number: as many leading digits as fit into 64
bits, scaled by a power of ten. A number too large for floating point has no value.
-/

namespace WorldClock.Json

open Text

/-- A number as it is written. -/
structure Numeral where
  negative : Bool
  /-- The digits before the point. -/
  whole : List Char
  /-- The digits after the point, none if there is no point. -/
  fraction : List Char
  /-- Whether the exponent is negative, and its digits, if there is an exponent. -/
  exponent : Option (Bool × List Char)
deriving DecidableEq, Repr

namespace Numeral

/-- The largest unsigned integer of 64 bits. -/
def maxWord : Nat := 0xFFFFFFFFFFFFFFFF

/-- The largest signed integer of 32 bits. -/
def maxExponent : Nat := 0x7FFFFFFF

/-! ### Significant digits -/

/-- Leading digits as an integer of 64 bits, and the power of ten by which it is scaled. -/
structure Scaled where
  significand : Nat
  exponent : Int
deriving DecidableEq, Repr

/-- Digits before the point, until one does not fit; each later one only counts as a power of
ten. -/
def Scaled.addWhole (s : Scaled) (c : Char) : Scaled :=
  if s.exponent = 0 ∧ 10 * s.significand + digitValue c ≤ maxWord then
    { s with significand := 10 * s.significand + digitValue c }
  else { s with exponent := s.exponent + 1 }

/-- Digits after the point, until one does not fit; that one and the later ones are dropped. -/
def Scaled.addFraction (s : Scaled) : List Char → Scaled
  | [] => s
  | c :: cs =>
    if 10 * s.significand + digitValue c ≤ maxWord then
      Scaled.addFraction ⟨10 * s.significand + digitValue c, s.exponent - 1⟩ cs
    else s

/-- The leading digits of a number. -/
def scaled (n : Numeral) : Scaled :=
  (n.whole.foldl Scaled.addWhole ⟨0, 0⟩).addFraction n.fraction

/-! ### Scaling -/

/-- Ten to a power from 0 to 308. -/
def powerOfTen (n : Nat) : Float :=
  Float.ofScientific 1 false n

/-- A number scaled by a power of ten, in steps of 308 powers. Nothing if it becomes infinite. -/
def scale : Nat → Float → Int → Option Float
  | 0, x, _ => some x
  | steps + 1, x, exponent =>
    if exponent.natAbs ≤ 308 then
      if 0 ≤ exponent then
        let y := x * powerOfTen exponent.natAbs
        if y.isInf then none else some y
      else some (x / powerOfTen exponent.natAbs)
    else if x == 0 then some x
    else if 0 ≤ exponent then none
    else scale steps (x / powerOfTen 308) (exponent + 308)

/-- The size of a number with an exponent that fits into 32 bits. -/
def size? (s : Scaled) (exponent : Int) : Option Float :=
  let total := max (-2147483648) (min 2147483647 (s.exponent + exponent))
  scale (total.natAbs / 308 + 1) s.significand.toUInt64.toFloat total

/-- The size of a number as a floating-point number. An exponent that does not fit into 32 bits
makes a number zero or too large. -/
def float? (n : Numeral) : Option Float :=
  let s := n.scaled
  match n.exponent with
  | none => size? s 0
  | some (negative, digits) =>
    let power := numberUpTo maxExponent digits
    if power ≤ maxExponent then size? s (if negative then -(power : Int) else power)
    else if s.significand ≠ 0 ∧ !negative then none
    else some 0

/-! ### Values -/

/-- The value of an integer of 64 bits. Negative zero is none. -/
def int? (n : Numeral) : Option Int :=
  if n.fraction ≠ [] ∨ n.exponent.isSome then none
  else
    let size := numberUpTo maxWord n.whole
    if n.negative then
      if 0 < size ∧ size ≤ 0x8000000000000000 then some (-(size : Int)) else none
    else if size ≤ maxWord then some size else none

/-- The value that a number is read as. -/
def value? (n : Numeral) : Option Json :=
  match n.int? with
  | some k => some (.int k)
  | none => n.float?.map fun x => .float (if n.negative then -x else x)

end Numeral

end WorldClock.Json
