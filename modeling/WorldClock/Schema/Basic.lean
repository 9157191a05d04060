import WorldClock.Json.Printer
/-!
# Schemas

Schemas of JSON values, with the keywords for types, members and lengths of strings. A schema is
read from a JSON document (`Schema.ofJson`). There are two ways to hold a value against a schema:
`Schema.isValid` says whether the schema allows it, and `Schema.problems` lists all that is wrong
with it. A keyword says nothing about values of a type that it is not made for.
-/

namespace WorldClock

/-! ### Types -/

/-- The types that a schema can ask for. -/
inductive JsonType
  | null | boolean | integer | number | string | array | object
deriving DecidableEq, Repr

namespace JsonType

/-- All types. -/
def all : List JsonType := [null, boolean, integer, number, string, array, object]

/-- The name of a type in a schema. -/
def name : JsonType → String
  | null => "null"
  | boolean => "boolean"
  | integer => "integer"
  | number => "number"
  | string => "string"
  | array => "array"
  | object => "object"

/-- The type with a name. -/
def ofName? (name : String) : Option JsonType :=
  all.find? fun type => type.name == name

/-- Whether a value is of a type. A number without a fraction is an integer however it is
written. -/
def holds : JsonType → Json → Bool
  | null, .null => true
  | boolean, .bool _ => true
  | integer, .int _ => true
  | integer, .float value => value.floor == value
  | number, .int _ => true
  | number, .float _ => true
  | string, .str _ => true
  | array, .arr _ => true
  | object, .obj _ => true
  | _, _ => false

end JsonType

/-! ### Schemas -/

/-- A schema. -/
inductive Schema
  /-- Allows every value. -/
  | anything
  /-- Allows no value. -/
  | nothing
  /-- Allows the values that meet all of some conditions: a type, members that must be present,
  schemas for members by name, a schema for all other members, and the least length of a string. A
  schema that allows no other members is closed. -/
  | rules (type : Option JsonType) (required : List String)
      (properties : Option (List (String × Schema))) (others : Option Schema)
      (minLength : Option Nat)
deriving Inhabited, Repr

/-- What is wrong with a value or a part of it. -/
inductive Problem
  | wrongType (value : Json) (type : JsonType)
  | missing (name : String)
  | tooShort (text : String) (least : Nat)
  | extra (names : List String)
  | forbidden (value : Json)
deriving Repr

/-- The text that explains a problem. -/
def Problem.message : Problem → String
  | wrongType value type => s!"{value.text} is not of type \"{type.name}\""
  | missing name => s!"{(Json.str name).text} is a required property"
  | tooShort text least =>
    let unit := if least = 1 then "character" else "characters"
    s!"{(Json.str text).text} is shorter than {least} {unit}"
  | extra names =>
    let quoted := names.map fun name => s!"'{name}'"
    let verb := if names.length = 1 then "was" else "were"
    "Additional properties are not allowed (" ++ String.intercalate ", " quoted ++
      s!" {verb} unexpected)"
  | forbidden value => s!"False schema does not allow {value.text}"

namespace Schema

/-- The schema for the values of the members of a name. -/
def memberSchema? (properties : List (String × Schema)) (others : Option Schema)
    (name : String) : Option Schema :=
  (properties.lookup name).or others

/-! ### The verdict on a value -/

/-- Whether a value is of the type that is asked for, if one is. -/
def isOfType (type : Option JsonType) (value : Json) : Bool :=
  type.all fun type => type.holds value

/-- Whether a value is long enough, if it is a string. -/
def isLongEnough (minLength : Option Nat) : Json → Bool
  | .str text => minLength.all fun least => least ≤ text.length
  | _ => true

/-- Whether an object has the members that must be present. -/
def hasRequired (required : List String) (members : List (String × Json)) : Bool :=
  required.all fun name => (members.lookup name).isSome

mutual
/-- Whether a schema allows a value. -/
def isValid : Schema → Json → Bool
  | anything, _ => true
  | nothing, _ => false
  | rules type required properties others minLength, value =>
    isOfType type value &&
      (match value with
      | .obj members =>
        hasRequired required members &&
          membersValid (memberSchema? (properties.getD []) others) members
      | _ => true) &&
      isLongEnough minLength value

/-- Whether the values of members are allowed, with the schema for each name. -/
def membersValid (schemaOf : String → Option Schema) : List (String × Json) → Bool
  | [] => true
  | (name, value) :: rest =>
    (match schemaOf name with
    | some schema => isValid schema value
    | none => true) && membersValid schemaOf rest
end

/-! ### What is wrong with a value -/

/-- What is wrong with the type of a value. -/
def typeProblems (type : Option JsonType) (value : Json) : List Problem :=
  match type with
  | some type => if type.holds value then [] else [.wrongType value type]
  | none => []

/-- What is wrong with the length of a value that is a string. -/
def lengthProblems (minLength : Option Nat) (value : Json) : List Problem :=
  match minLength, value with
  | some least, .str text => if text.length < least then [.tooShort text least] else []
  | _, _ => []

/-- What is missing among the members of an object. -/
def missingProblems (required : List String) (members : List (String × Json)) : List Problem :=
  (required.filter fun name => (members.lookup name).isNone).map .missing

/-- The names of the members of an object that stand in no list of names. -/
def extraNames (known : List String) (members : List (String × Json)) : List String :=
  (members.map Prod.fst).filter fun name => !known.contains name

/-- What is wrong with the names of members: a schema that knows members by name and forbids all
others complains of the others together. -/
def extraProblems (properties : Option (List (String × Schema))) (others : Option Schema)
    (members : List (String × Json)) : List Problem :=
  match properties, others with
  | some properties, some nothing =>
    match extraNames (properties.map Prod.fst) members with
    | [] => []
    | names => [.extra names]
  | _, _ => []

/-- The schema by which the values of the members of a name are found wrong. A schema that complains
of names has nothing to say of their values. -/
def valueSchema? (properties : Option (List (String × Schema))) (others : Option Schema)
    (name : String) : Option Schema :=
  match properties, others with
  | some properties, some nothing => properties.lookup name
  | properties, others => memberSchema? (properties.getD []) others name

mutual
/-- All that is wrong with a value, in the order of the conditions. -/
def problems : Schema → Json → List Problem
  | anything, _ => []
  | nothing, value => [.forbidden value]
  | rules type required properties others minLength, value =>
    typeProblems type value ++
      (match value with
      | .obj members =>
        missingProblems required members ++
          memberProblems (valueSchema? properties others) members ++
          extraProblems properties others members
      | _ => []) ++
      lengthProblems minLength value

/-- All that is wrong with the values of members, with the schema for each name. -/
def memberProblems (schemaOf : String → Option Schema) : List (String × Json) → List Problem
  | [] => []
  | (name, value) :: rest =>
    (match schemaOf name with
    | some schema => problems schema value
    | none => []) ++ memberProblems schemaOf rest
end

end Schema

end WorldClock
