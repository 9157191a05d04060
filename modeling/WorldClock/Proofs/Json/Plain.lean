import WorldClock.Json.Basic
import WorldClock.Proofs.Json.Spelling
import WorldClock.Proofs.Table
/-!
# Plain JSON values

The values that a text can hold exactly: without floating-point numbers, with integers that fit into
64 bits, and with members of different names in each object. The canonical form of a plain value has
the same members in the order of their names, is plain, and is not nested any deeper.
-/

namespace WorldClock.Json

/-- What holds of a value if it holds of the items and members in it holds of every value. -/
@[elab_as_elim]
theorem inductionOn {P : Json → Prop} (value : Json) (null : P null) (bool : ∀ b, P (bool b))
    (int : ∀ n, P (int n)) (float : ∀ x, P (float x)) (str : ∀ text, P (str text))
    (arr : ∀ items, (∀ item ∈ items, P item) → P (arr items))
    (obj : ∀ members, (∀ member ∈ members, P member.2) → P (obj members)) : P value :=
  match value with
  | .null => null
  | .bool b => bool b
  | .int n => int n
  | .float x => float x
  | .str text => str text
  | .arr items => arr items fun item _ => inductionOn item null bool int float str arr obj
  | .obj members => obj members fun member _ => inductionOn member.2 null bool int float str arr obj
termination_by value
decreasing_by
  · have hlt := List.sizeOf_lt_of_mem ‹item ∈ items›
    rw [Json.arr.sizeOf_spec]
    omega
  · have hlt := List.sizeOf_lt_of_mem ‹member ∈ members›
    obtain ⟨name, value⟩ := member
    rw [Prod.mk.sizeOf_spec] at hlt
    rw [Json.obj.sizeOf_spec]
    dsimp only
    omega

/-! ### Nesting -/

mutual
/-- How many arrays and objects of a value lie one inside the other. -/
def depth : Json → Nat
  | arr items => itemsDepth items + 1
  | obj members => membersDepth members + 1
  | _ => 0

/-- The greatest depth of some values. -/
def itemsDepth : List Json → Nat
  | [] => 0
  | item :: rest => max item.depth (itemsDepth rest)

/-- The greatest depth of the values of some members. -/
def membersDepth : List (String × Json) → Nat
  | [] => 0
  | (_, value) :: rest => max value.depth (membersDepth rest)
end

variable {items : List Json} {members : List (String × Json)} {limit : Nat}

lemma itemsDepth_le_iff : itemsDepth items ≤ limit ↔ ∀ item ∈ items, item.depth ≤ limit := by
  induction items with
  | nil => simp [itemsDepth]
  | cons item rest ih => simp [itemsDepth, ih]

lemma membersDepth_le_iff :
    membersDepth members ≤ limit ↔ ∀ member ∈ members, member.2.depth ≤ limit := by
  induction members with
  | nil => simp [membersDepth]
  | cons member rest ih => simp [membersDepth, ih]

/-! ### Plain values -/

mutual
/-- Whether a text can hold a value exactly. -/
def isPlain : Json → Bool
  | int n => isWord n
  | float _ => false
  | arr items => itemsPlain items
  | obj members => decide (members.map Prod.fst).Nodup && membersPlain members
  | _ => true

/-- Whether a text can hold some values exactly. -/
def itemsPlain : List Json → Bool
  | [] => true
  | item :: rest => item.isPlain && itemsPlain rest

/-- Whether a text can hold the values of some members exactly. -/
def membersPlain : List (String × Json) → Bool
  | [] => true
  | (_, value) :: rest => value.isPlain && membersPlain rest
end

lemma itemsPlain_iff : itemsPlain items = true ↔ ∀ item ∈ items, item.isPlain = true := by
  induction items with
  | nil => simp [itemsPlain]
  | cons item rest ih => simp [itemsPlain, ih]

lemma membersPlain_iff :
    membersPlain members = true ↔ ∀ member ∈ members, member.2.isPlain = true := by
  induction members with
  | nil => simp [membersPlain]
  | cons member rest ih => simp [membersPlain, ih]

@[simp] lemma isPlain_str (text : String) : (str text).isPlain = true := by simp [isPlain]

@[simp] lemma isPlain_null : null.isPlain = true := by simp [isPlain]

@[simp] lemma isPlain_bool (value : Bool) : (bool value).isPlain = true := by simp [isPlain]

@[simp] lemma isPlain_int (n : Int) : (int n).isPlain = isWord n := by simp [isPlain]

@[simp] lemma isPlain_arr :
    (arr items).isPlain = true ↔ ∀ item ∈ items, item.isPlain = true := by
  rw [isPlain, itemsPlain_iff]

@[simp] lemma isPlain_obj :
    (obj members).isPlain = true ↔
      (members.map Prod.fst).Nodup ∧ ∀ member ∈ members, member.2.isPlain = true := by
  rw [isPlain, Bool.and_eq_true, decide_eq_true_eq, membersPlain_iff]

/-! ### Canonical form -/

lemma canonicalItems_eq_map (items : List Json) : canonicalItems items = items.map canonical := by
  induction items with
  | nil => rfl
  | cons item rest ih => rw [canonicalItems, ih, List.map_cons]

lemma canonicalMembers_eq_map (members : List (String × Json)) :
    canonicalMembers members = members.map fun member => (member.1, member.2.canonical) := by
  induction members with
  | nil => rfl
  | cons member rest ih => rw [canonicalMembers, ih, List.map_cons]

@[simp] lemma names_canonicalMembers (members : List (String × Json)) :
    (canonicalMembers members).map Prod.fst = members.map Prod.fst := by
  simp [canonicalMembers_eq_map]

lemma forall_canonicalMembers {P : Json → Prop} (h : ∀ member ∈ members, P member.2.canonical) :
    ∀ member ∈ Table.ofList (canonicalMembers members), P member.2 := by
  intro member hmember
  have hmem := Table.mem_of_mem_ofList hmember
  rw [canonicalMembers_eq_map, List.mem_map] at hmem
  obtain ⟨original, horiginal, rfl⟩ := hmem
  exact h original horiginal

lemma canonicalMembers_eq_self (h : ∀ member ∈ members, member.2.canonical = member.2) :
    canonicalMembers members = members := by
  rw [canonicalMembers_eq_map]
  refine (List.map_congr_left fun member hmember => ?_).trans (List.map_id members)
  exact Prod.ext rfl (h member hmember)

/-- The canonical form is its own canonical form. -/
@[simp] theorem canonical_canonical (value : Json) :
    value.canonical.canonical = value.canonical := by
  induction value using inductionOn with
  | arr items ih =>
    simp only [canonical, canonicalItems_eq_map, List.map_map]
    exact congrArg arr (List.map_congr_left ih)
  | obj members ih =>
    have hvalues : ∀ member ∈ Table.ofList (canonicalMembers members),
        member.2.canonical = member.2 :=
      forall_canonicalMembers (P := fun value => value.canonical = value) ih
    rw [canonical, object, canonical, object, canonicalMembers_eq_self hvalues,
      Table.ofList_eq_self (Table.pairwise_names_ofList _)]
  | _ => rfl

lemma isPlain_canonical {value : Json} (h : value.isPlain = true) :
    value.canonical.isPlain = true := by
  induction value using inductionOn with
  | arr items ih =>
    rw [canonical, isPlain_arr, canonicalItems_eq_map, List.forall_mem_map]
    exact fun item hitem => ih item hitem (isPlain_arr.1 h item hitem)
  | obj members ih =>
    refine isPlain_obj.2 ⟨Table.nodup_names_ofList _, ?_⟩
    exact forall_canonicalMembers (P := fun value => value.isPlain = true) fun member hmember =>
      ih member hmember ((isPlain_obj.1 h).2 member hmember)
  | _ => exact h

lemma depth_canonical_le (value : Json) : value.canonical.depth ≤ value.depth := by
  induction value using inductionOn with
  | arr items ih =>
    rw [canonical, depth, depth, Nat.succ_le_succ_iff, itemsDepth_le_iff, canonicalItems_eq_map,
      List.forall_mem_map]
    exact fun item hitem => (ih item hitem).trans (itemsDepth_le_iff.1 le_rfl item hitem)
  | obj members ih =>
    rw [canonical, object, depth, depth, Nat.succ_le_succ_iff, membersDepth_le_iff]
    exact forall_canonicalMembers (P := fun value => value.depth ≤ membersDepth members)
      fun member hmember => (ih member hmember).trans (membersDepth_le_iff.1 le_rfl member hmember)
  | _ => exact le_rfl

end WorldClock.Json
