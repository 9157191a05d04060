import WorldClock.Decimal.Shortest
import WorldClock.Json.Basic
/-!
# Equal JSON values

When two values count as the same. Numbers do by what they denote, however they are written, so that
`2` and `2.0` are the same. Objects are compared member by member, in the order in which they have
their members.
-/

namespace WorldClock.Json

/-- Whether a finite floating-point number is exactly an integer. -/
def isInteger (x : Float) (n : Int) : Bool :=
  let b := Decimal.Binary.ofFloat x
  b.mantissa * Nat.pow 2 b.exponent.toNat == n.natAbs * Nat.pow 2 (-b.exponent).toNat &&
    decide (x < 0) == decide (n < 0)

mutual
/-- Whether two values are the same. -/
def same : Json → Json → Bool
  | null, null => true
  | bool a, bool b => a == b
  | int a, int b => a == b
  | int a, float b => isInteger b a
  | float a, int b => isInteger a b
  | float a, float b => a == b
  | str a, str b => a == b
  | arr a, arr b => sameItems a b
  | obj a, obj b => sameMembers a b
  | _, _ => false

/-- Whether two arrays have the same items. -/
def sameItems : List Json → List Json → Bool
  | [], [] => true
  | a :: as, b :: bs => same a b && sameItems as bs
  | _, _ => false

/-- Whether two objects have the same members. -/
def sameMembers : List (String × Json) → List (String × Json) → Bool
  | [], [] => true
  | (n, a) :: as, (m, b) :: bs => n == m && same a b && sameMembers as bs
  | _, _ => false
end

/-- Whether no value stands twice in a list. -/
def distinct : List Json → Bool
  | [] => true
  | value :: rest => !rest.any (same value) && distinct rest

end WorldClock.Json
