import Mathlib.Data.String.Basic
import Mathlib.Tactic
import WorldClock.Table
/-!
# The names in tables

A table that is built entry by entry has each name once, in order, and the names are those that were
put in. The names of a table are its entries without their values. Entries with different names have
the same table whether it is built entry by entry or by sorting (`Table.gather_eq_ofList`).
-/

namespace WorldClock.Table

variable {α : Type} {name other : String} {value : α} {table : List (String × α)}

/-! ### Putting in -/

lemma mem_of_mem_put {entry : String × α} (h : entry ∈ put name value table) :
    entry = (name, value) ∨ entry ∈ table := by
  induction table with
  | nil => exact .inl (List.mem_singleton.1 h)
  | cons first rest ih =>
    rw [put] at h
    split_ifs at h
    · rcases List.mem_cons.1 h with rfl | h
      · exact .inr (.head _)
      · exact (ih h).imp_right (.tail _)
    · rcases List.mem_cons.1 h with rfl | h
      · exact .inl rfl
      · exact .inr (.tail _ h)
    · rcases List.mem_cons.1 h with rfl | h
      · exact .inl rfl
      · exact .inr h

lemma mem_names_put :
    other ∈ (put name value table).map Prod.fst ↔ other = name ∨ other ∈ table.map Prod.fst := by
  induction table with
  | nil => simp [put]
  | cons first rest ih =>
    rw [put]
    split_ifs with hlt heq
    · simp only [List.map_cons, List.mem_cons, ih]
      tauto
    · simp [heq]
    · simp

/-- The names stay in order, and none of them comes twice. -/
lemma pairwise_put (h : (table.map Prod.fst).Pairwise (· < ·)) :
    ((put name value table).map Prod.fst).Pairwise (· < ·) := by
  induction table with
  | nil => exact List.pairwise_singleton _ _
  | cons first rest ih =>
    obtain ⟨hfirst, hrest⟩ := List.pairwise_cons.1 h
    rw [put]
    split_ifs with hlt heq
    · refine List.pairwise_cons.2 ⟨fun other hother => ?_, ih hrest⟩
      rcases mem_names_put.1 hother with rfl | hother
      · exact hlt
      · exact hfirst other hother
    · exact List.pairwise_cons.2 ⟨heq ▸ hfirst, hrest⟩
    · have hbefore : name < first.1 := lt_of_le_of_ne (not_lt.1 hlt) (Ne.symm heq)
      refine List.pairwise_cons.2 ⟨fun other hother => ?_, h⟩
      rcases List.mem_cons.1 hother with rfl | hother
      · exact hbefore
      · exact hbefore.trans (hfirst other hother)

/-! ### Lists of entries -/

lemma ofList_concat (entries : List (String × α)) (entry : String × α) :
    ofList (entries ++ [entry]) = put entry.1 entry.2 (ofList entries) := by
  simp [ofList]

lemma mem_of_mem_ofList {entries : List (String × α)} {entry : String × α}
    (h : entry ∈ ofList entries) : entry ∈ entries := by
  induction entries using List.reverseRecOn with
  | nil => exact h
  | append_singleton entries last ih =>
    rw [ofList_concat] at h
    rcases mem_of_mem_put h with rfl | h
    · exact List.mem_append_right _ (.head _)
    · exact List.mem_append_left _ (ih h)

lemma mem_names_ofList {entries : List (String × α)} :
    name ∈ (ofList entries).map Prod.fst ↔ name ∈ entries.map Prod.fst := by
  induction entries using List.reverseRecOn with
  | nil => rfl
  | append_singleton entries last ih =>
    rw [ofList_concat, mem_names_put, ih, List.map_append, List.mem_append, List.map_singleton,
      List.mem_singleton, or_comm]

lemma pairwise_names_ofList (entries : List (String × α)) :
    ((ofList entries).map Prod.fst).Pairwise (· < ·) := by
  induction entries using List.reverseRecOn with
  | nil => exact .nil
  | append_singleton entries last ih =>
    rw [ofList_concat]
    exact pairwise_put ih

lemma nodup_names_ofList (entries : List (String × α)) :
    ((ofList entries).map Prod.fst).Nodup :=
  (pairwise_names_ofList entries).imp ne_of_lt

/-- Entries in the order of their names are not changed by leaving out repeated names. -/
lemma foldr_prepend_eq_self {entries : List (String × α)}
    (h : (entries.map Prod.fst).Pairwise (· < ·)) : entries.foldr prepend [] = entries := by
  induction entries with
  | nil => rfl
  | cons entry entries ih =>
    obtain ⟨hentry, hrest⟩ := List.pairwise_cons.1 h
    rw [List.foldr_cons, ih hrest]
    cases entries with
    | nil => rfl
    | cons next rest => rw [prepend, if_neg (hentry next.1 (.head _)).ne]

/-- A list of entries in the order of their names is a table already. -/
lemma gather_eq_self {entries : List (String × α)}
    (h : (entries.map Prod.fst).Pairwise (· < ·)) : gather entries = entries := by
  have hsorted : entries.Pairwise fun a b => !decide (b.1 < a.1) := by
    refine (List.pairwise_map.1 h).imp fun hlt => ?_
    rw [decide_eq_false (lt_asymm hlt), Bool.not_false]
  rw [gather, List.mergeSort_of_pairwise hsorted, foldr_prepend_eq_self h]

/-! ### Entries with different names -/

lemma put_perm (h : name ∉ table.map Prod.fst) :
    (put name value table).Perm ((name, value) :: table) := by
  induction table with
  | nil => exact .refl _
  | cons first rest ih =>
    rw [List.map_cons, List.mem_cons, not_or] at h
    rw [put]
    split_ifs with hlt heq
    · exact ((ih h.2).cons first).trans (.swap _ _ _)
    · exact absurd heq.symm h.1
    · exact .refl _

/-- Entries with different names are all in their table. -/
lemma ofList_perm {entries : List (String × α)} (h : (entries.map Prod.fst).Nodup) :
    (ofList entries).Perm entries := by
  induction entries using List.reverseRecOn with
  | nil => exact .refl _
  | append_singleton entries last ih =>
    rw [List.map_append, List.nodup_append] at h
    have hlast : last.1 ∉ (ofList entries).map Prod.fst := fun hmem =>
      h.2.2 last.1 (mem_names_ofList.1 hmem) last.1 (.head _) rfl
    rw [ofList_concat]
    exact (put_perm hlast).trans (((ih h.1).cons last).trans (List.perm_append_singleton _ _).symm)

/-- Entries in the order of their names are known by which they are. -/
lemma eq_of_perm {entries others : List (String × α)} (hperm : entries.Perm others)
    (h : (entries.map Prod.fst).Pairwise (· < ·))
    (hothers : (others.map Prod.fst).Pairwise (· < ·)) : entries = others :=
  hperm.eq_of_pairwise (fun _ _ _ _ hab hba => absurd hab (lt_asymm hba)) (List.pairwise_map.1 h)
    (List.pairwise_map.1 hothers)

lemma ofList_eq_self {entries : List (String × α)} (h : (entries.map Prod.fst).Pairwise (· < ·)) :
    ofList entries = entries :=
  eq_of_perm (ofList_perm (h.imp ne_of_lt)) (pairwise_names_ofList entries) h

/-- Sorting finds the table of entries with different names. -/
lemma gather_eq_ofList {entries : List (String × α)} (h : (entries.map Prod.fst).Nodup) :
    gather entries = ofList entries := by
  set sorted := entries.mergeSort fun a b => !decide (b.1 < a.1) with hsorted
  have hperm : sorted.Perm entries := List.mergeSort_perm _ _
  have hle : sorted.Pairwise fun a b => a.1 ≤ b.1 := by
    refine (List.pairwise_mergeSort (fun a b c hab hbc => ?_) (fun a b => ?_) entries).imp
      fun hab => ?_
    all_goals
      simp only [Bool.or_eq_true, Bool.not_eq_true', decide_eq_false_iff_not, not_lt] at *
    · exact hab.trans hbc
    · exact le_total a.1 b.1
    · exact hab
  have hne : sorted.Pairwise fun a b => a.1 ≠ b.1 :=
    List.pairwise_map.1 ((hperm.map Prod.fst).nodup_iff.2 h)
  have hlt : (sorted.map Prod.fst).Pairwise (· < ·) :=
    List.pairwise_map.2 (hle.imp₂ (fun _ _ => lt_of_le_of_ne) hne)
  rw [gather, ← hsorted, foldr_prepend_eq_self hlt]
  exact eq_of_perm (hperm.trans (ofList_perm h).symm) hlt (pairwise_names_ofList entries)

/-! ### Changing values -/

/-- A name that the table does not have changes nothing. -/
lemma update_of_notMem {change : α → α} (h : name ∉ table.map Prod.fst) :
    update name change table = table := by
  refine (List.map_congr_left fun entry hentry => ?_).trans (List.map_id table)
  have hne : entry.1 ≠ name := fun heq => h (heq ▸ List.mem_map_of_mem hentry)
  simp [hne]

/-! ### Looking up -/

lemma mem_of_lookup (h : table.lookup name = some value) : (name, value) ∈ table := by
  obtain ⟨before, after, rfl, -⟩ := List.lookup_eq_some_iff.1 h
  exact List.mem_append_right _ (.head _)

lemma exists_lookup (h : name ∈ table.map Prod.fst) : ∃ value, table.lookup name = some value := by
  obtain ⟨entry, hentry, rfl⟩ := List.mem_map.1 h
  exact Option.isSome_iff_exists.1 (List.lookup_isSome_iff.2 ⟨entry, hentry, beq_self_eq_true _⟩)

lemma isNone_lookup_iff :
    (table.lookup name).isNone = true ↔ name ∉ table.map Prod.fst := by
  constructor
  · intro hnone hmem
    obtain ⟨value, hvalue⟩ := exists_lookup hmem
    simp [hvalue] at hnone
  · intro hnot
    rw [Option.isNone_iff_eq_none, Option.eq_none_iff_forall_ne_some]
    exact fun value hvalue => hnot (List.mem_map_of_mem (mem_of_lookup hvalue))

lemma lookup_eq_some_iff (h : (table.map Prod.fst).Nodup) :
    table.lookup name = some value ↔ (name, value) ∈ table := by
  refine ⟨mem_of_lookup, fun hmem => ?_⟩
  obtain ⟨found, hfound⟩ := exists_lookup (List.mem_map_of_mem hmem)
  have heq := List.inj_on_of_nodup_map h (mem_of_lookup hfound) hmem rfl
  exact hfound.trans (congrArg (some ∘ Prod.snd) heq)

/-- Entries with different names are looked up in their table as they are. -/
lemma lookup_ofList {entries : List (String × α)} (h : (entries.map Prod.fst).Nodup) :
    (ofList entries).lookup name = entries.lookup name := by
  ext value
  rw [lookup_eq_some_iff (nodup_names_ofList entries), lookup_eq_some_iff h,
    (ofList_perm h).mem_iff]

end WorldClock.Table
