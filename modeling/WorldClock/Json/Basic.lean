import WorldClock.Table
/-!
# JSON values

A JSON value as a tree. Integers that fit into 64 bits, with or without a sign, are kept apart from
all other numbers. Members of an object stand in the order in which they are written; values read
from a text have them in the order of their names, each name once (`Table.gather`).
-/

namespace WorldClock

/-- A JSON value. -/
inductive Json
  | null
  | bool (value : Bool)
  /-- An integer from -2⁶³ to 2⁶⁴ - 1. -/
  | int (value : Int)
  | float (value : Float)
  | str (value : String)
  | arr (items : List Json)
  | obj (members : List (String × Json))
deriving Inhabited, Repr

namespace Json

/-- The value of a member of an object, by the name of the member. -/
def get? (name : String) : Json → Option Json
  | obj members => members.lookup name
  | _ => none

/-- The text of a string value. -/
def str? : Json → Option String
  | str text => some text
  | _ => none

/-- An object with its members in the order of their names. -/
def object (members : List (String × Json)) : Json :=
  obj (Table.ofList members)

mutual
/-- A value with the members of all objects in the order of their names, the last one of each
name. -/
def canonical : Json → Json
  | arr items => arr (canonicalItems items)
  | obj members => object (canonicalMembers members)
  | value => value

/-- The values of an array in canonical form. -/
def canonicalItems : List Json → List Json
  | [] => []
  | item :: rest => item.canonical :: canonicalItems rest

/-- The members of an object with their values in canonical form. -/
def canonicalMembers : List (String × Json) → List (String × Json)
  | [] => []
  | (name, value) :: rest => (name, value.canonical) :: canonicalMembers rest
end

/-- An optional text, or null. -/
def textOrNull : Option String → Json
  | some text => str text
  | none => null

end Json

end WorldClock
