import WorldClock.Json.Equality
import WorldClock.Schema.Basic
/-!
# Schema documents

Reading of schemas from JSON. A document that is no schema is refused with the first of its faults:
those of the schema for other members come first, then those of the schemas for members by name, and
then those of the other keywords in the order of their names.
-/

namespace WorldClock

/-- Why a JSON value is no schema. -/
inductive SchemaFault
  | notSchema (value : Json)
  | unknownType (value : Json)
  | wrongType (value : Json) (type : JsonType)
  | repeated (value : Json)
  | negative (value : Json)
deriving Repr

/-- The text that explains a fault of a schema. -/
def SchemaFault.message : SchemaFault → String
  | notSchema value => s!"{value.text} is not of types \"boolean\", \"object\""
  | unknownType value =>
    s!"{value.text} is not valid under any of the schemas listed in the 'anyOf' keyword"
  | wrongType value type => (Problem.wrongType value type).message
  | repeated value => s!"{value.text} has non-unique elements"
  | negative value => s!"{value.text} is less than the minimum of 0"

namespace Schema

/-- The type that the keyword `type` asks for. -/
def readType : Option Json → Except SchemaFault (Option JsonType)
  | none => .ok none
  | some (.str name) =>
    match JsonType.ofName? name with
    | some type => .ok (some type)
    | none => .error (.unknownType (.str name))
  | some value => .error (.unknownType value)

/-- The names in a list of strings. -/
def readNames : List Json → Except SchemaFault (List String)
  | [] => .ok []
  | .str name :: rest => (readNames rest).map (name :: ·)
  | value :: _ => .error (.wrongType value .string)

/-- The members that the keyword `required` asks for. -/
def readRequired : Option Json → Except SchemaFault (List String)
  | none => .ok []
  | some (.arr items) =>
    if Json.distinct items then readNames items else .error (.repeated (.arr items))
  | some value => .error (.wrongType value .array)

/-- The length that the keyword `minLength` asks for. -/
def readMinLength : Option Json → Except SchemaFault (Option Nat)
  | none => .ok none
  | some (.int n) => if n < 0 then .error (.negative (.int n)) else .ok (some n.toNat)
  | some (.float x) =>
    if !(JsonType.integer.holds (.float x)) then .error (.wrongType (.float x) .integer)
    else if x < 0 then .error (.negative (.float x))
    else .ok (some x.toUInt64.toNat)
  | some value => .error (.wrongType value .integer)

mutual
/-- The schema that a JSON value describes. -/
def ofJson : Json → Except SchemaFault Schema
  | .bool true => .ok anything
  | .bool false => .ok nothing
  | .obj members => do
    let others ← findOthers members
    let properties ← findProperties members
    let minLength ← readMinLength (members.lookup "minLength")
    let required ← readRequired (members.lookup "required")
    let type ← readType (members.lookup "type")
    .ok (rules type required properties others minLength)
  | value => .error (.notSchema value)

/-- The schema that the keyword `additionalProperties` gives for other members. To allow all of them
is as good as to say nothing of them. -/
def findOthers : List (String × Json) → Except SchemaFault (Option Schema)
  | [] => .ok none
  | ("additionalProperties", .bool true) :: _ => .ok none
  | ("additionalProperties", value) :: _ => (ofJson value).map some
  | _ :: rest => findOthers rest

/-- The schemas that the keyword `properties` gives for members by name. -/
def findProperties : List (String × Json) → Except SchemaFault (Option (List (String × Schema)))
  | [] => .ok none
  | ("properties", .obj members) :: _ => (readProperties members).map some
  | ("properties", value) :: _ => .error (.wrongType value .object)
  | _ :: rest => findProperties rest

/-- The schemas for members by name. -/
def readProperties : List (String × Json) → Except SchemaFault (List (String × Schema))
  | [] => .ok []
  | (name, value) :: rest => do
    let schema ← ofJson value
    let others ← readProperties rest
    .ok ((name, schema) :: others)
end

end Schema

/-- Why a value is refused. -/
inductive Refusal
  | badSchema (fault : SchemaFault)
  | badValue (problems : List Problem)
deriving Repr

/-- The text that explains a refusal. -/
def Refusal.message : Refusal → String
  | badSchema fault => s!"Schema compile error: {fault.message}"
  | badValue problems =>
    "Instance validation failed: " ++ String.intercalate "; " (problems.map Problem.message)

/-- Checks a value against a schema document. What is wrong with the value is looked for only if
the schema does not allow it. -/
def validate (document value : Json) : Except Refusal Unit :=
  match Schema.ofJson document with
  | .error fault => .error (.badSchema fault)
  | .ok schema =>
    if schema.isValid value then .ok () else .error (.badValue (schema.problems value))

end WorldClock
