import WorldClock.Text.Digits
/-!
# Shortest decimals

The shortest decimal text that reads back as a given floating-point number. A binary fraction
`m · 2 ^ q` stands for all reals that round to it. Of the grids `10 ^ k · ℕ` the coarsest one with a
point among these reals gives the fewest digits, and of its points there the nearest one is
written.
-/

namespace WorldClock.Decimal

/-! ### Binary fractions -/

/-- A positive floating-point number `mantissa * 2 ^ exponent`. -/
structure Binary where
  mantissa : Nat
  exponent : Int
  /-- Whether the next smaller number is only half as far away as the next larger one. -/
  narrowBelow : Bool
deriving DecidableEq, Repr

/-- The absolute value of a finite floating-point number. -/
def Binary.ofFloat (x : Float) : Binary :=
  let bits := x.toBits.toNat
  let fraction : Nat := bits % 0x10000000000000
  let scale : Nat := bits / 0x10000000000000 % 0x800
  if scale = 0 then ⟨fraction, -1074, false⟩
  else ⟨0x10000000000000 + fraction, (scale : Int) - 1075, fraction == 0 && scale != 1⟩

/-! ### Decimals on a grid -/

/-- A decimal `digits * 10 ^ exponent`, a point of the grid of its power of ten. -/
structure GridPoint where
  digits : Nat
  exponent : Int
deriving DecidableEq, Repr

/-- The interval that rounds to a number, in fourths of the unit of its last place, seen on the
grid of a power of ten: all terms are multiplied by the same positive number, and `step` is the
distance of two points of the grid. -/
structure Window where
  low : Nat
  middle : Nat
  high : Nat
  step : Nat
  closed : Bool
deriving DecidableEq, Repr

/-- The window of a number on the grid of the multiples of `10 ^ exponent`. -/
def Binary.window (b : Binary) (exponent : Int) : Window :=
  let scale := Nat.pow 2 (b.exponent - 2).toNat * Nat.pow 10 (-exponent).toNat
  { low := (4 * b.mantissa - (if b.narrowBelow then 1 else 2)) * scale
    middle := 4 * b.mantissa * scale
    high := (4 * b.mantissa + 2) * scale
    step := Nat.pow 2 (2 - b.exponent).toNat * Nat.pow 10 exponent.toNat
    closed := b.mantissa % 2 == 0 }

namespace Window

/-- Whether a point of the grid, counted in steps, lies in the window. -/
def contains (w : Window) (n : Nat) : Bool :=
  if w.closed then w.low ≤ n * w.step && n * w.step ≤ w.high
  else w.low < n * w.step && n * w.step < w.high

/-- The point of the grid in the window that lies nearest to the middle; of two equally near ones
the even one. -/
def nearest? (w : Window) : Option Nat :=
  let below := w.middle / w.step
  let above := below + 1
  match w.contains below, w.contains above with
  | true, true =>
    let down := w.middle - below * w.step
    let up := above * w.step - w.middle
    some (if down < up ∨ (down = up ∧ below % 2 = 0) then below else above)
  | true, false => some below
  | false, true => some above
  | false, false => none

end Window

/-- The nearest decimal on the first grid with a hit, over a number of grids from the coarsest to
finer ones. -/
def Binary.firstHit (b : Binary) : Nat → Int → Option GridPoint
  | 0, _ => none
  | grids + 1, exponent =>
    match (b.window exponent).nearest? with
    | some n => some ⟨n, exponent⟩
    | none => b.firstHit grids (exponent - 1)

/-- The shortest decimal that rounds to a number. The grids from `10 ^ 309` down to `10 ^ (-330)`
hold one for every floating-point number. -/
def Binary.shortest (b : Binary) : GridPoint :=
  (b.firstHit 640 309).getD ⟨0, 0⟩

/-! ### Text -/

open Text

/-- The text of a decimal: in plain notation, with at least one digit on either side of the point,
if the first digit stands for a power of ten from -5 to 15, and in powers of ten otherwise. -/
def GridPoint.text (d : GridPoint) : List Char :=
  let digits := decimal d.digits
  let leading : Int := d.exponent + digits.length - 1
  if 0 ≤ d.exponent ∧ leading ≤ 15 then
    digits ++ List.replicate d.exponent.toNat '0' ++ ['.', '0']
  else if 0 ≤ leading ∧ leading ≤ 15 then
    digits.take (leading.toNat + 1) ++ '.' :: digits.drop (leading.toNat + 1)
  else if -5 ≤ leading ∧ leading < 0 then
    '0' :: '.' :: List.replicate (-leading - 1).toNat '0' ++ digits
  else
    digits.take 1 ++ (if digits.length = 1 then [] else '.' :: digits.drop 1) ++
      'e' :: (if leading < 0 then '-' else '+') :: decimal leading.natAbs

/-- The shortest text of a finite floating-point number. -/
def shortestText (x : Float) : List Char :=
  let b := Binary.ofFloat x
  let size := if b.mantissa = 0 then ['0', '.', '0'] else b.shortest.text
  if x.toBits.toNat / 0x8000000000000000 = 1 then '-' :: size else size

end WorldClock.Decimal
