import Mathlib.Data.List.DropRight
import Mathlib.Tactic
import WorldClock.Text.Blank
/-!
# Trimmed texts

Trimming leaves a text alone exactly if there is no blank at its ends (`Text.trimmed_eq_self_iff`),
and it does not see blanks that are added at the ends (`Text.trimmed_append_blank`,
`Text.trimmed_blanks`).
-/

namespace WorldClock.Text

lemma trimmed_eq_rdropWhile (cs : List Char) :
    trimmed cs = (cs.dropWhile isBlank).rdropWhile isBlank := rfl

lemma trimmed_subset (cs : List Char) : trimmed cs ⊆ cs := by
  rw [trimmed_eq_rdropWhile]
  exact List.Subset.trans (List.rdropWhile_prefix isBlank _).subset (List.dropWhile_subset isBlank)

/-- Nothing is left of a text exactly if it has only blanks. -/
lemma trimmed_eq_nil_iff {cs : List Char} : trimmed cs = [] ↔ ∀ c ∈ cs, isBlank c = true := by
  rw [trimmed_eq_rdropWhile, List.rdropWhile_eq_nil_iff]
  constructor
  · intro h
    rw [← List.dropWhile_eq_nil_iff]
    by_contra hne
    have hhead := List.head_dropWhile_not isBlank hne
    simp [h _ (List.head_mem hne)] at hhead
  · exact fun h c hc => h c (List.dropWhile_subset isBlank hc)

/-- A text that trimming leaves alone is one with no blank at its ends. -/
theorem trimmed_eq_self_iff {cs : List Char} :
    trimmed cs = cs ↔
      (∀ c ∈ cs.head?, isBlank c = false) ∧ ∀ c ∈ cs.getLast?, isBlank c = false := by
  constructor
  · intro h
    have hfront : cs.dropWhile isBlank = cs := by
      refine (List.dropWhile_sublist isBlank).eq_of_length_le ?_
      have hle := (List.rdropWhile_prefix isBlank (cs.dropWhile isBlank)).length_le
      rwa [← trimmed_eq_rdropWhile, h] at hle
    have hback : cs.rdropWhile isBlank = cs := by
      rwa [trimmed_eq_rdropWhile, hfront] at h
    constructor
    · intro c hc
      have hhead := List.head?_dropWhile_not isBlank cs
      rw [hfront, Option.mem_def.1 hc] at hhead
      simpa using hhead
    · intro c hc
      obtain ⟨hne, rfl⟩ := List.mem_getLast?_eq_getLast hc
      simpa using List.rdropWhile_eq_self_iff.1 hback hne
  · rintro ⟨hfront, hback⟩
    have hdrop : cs.dropWhile isBlank = cs := dropBlanks_eq_self hfront
    rw [trimmed_eq_rdropWhile, hdrop, List.rdropWhile_eq_self_iff]
    intro hne hblank
    have hlast : isBlank (cs.getLast hne) = false :=
      hback _ (List.getLast?_eq_getLast_of_ne_nil hne)
    exact Bool.false_ne_true (hlast.symm.trans hblank)

@[simp] lemma trimmed_trimmed (cs : List Char) : trimmed (trimmed cs) = trimmed cs := by
  rw [trimmed_eq_self_iff]
  constructor
  · -- What is left begins as the text does behind its first blanks.
    intro c hc
    have hhead := List.head?_dropWhile_not isBlank cs
    rw [trimmed_eq_rdropWhile] at hc
    obtain ⟨rest, hrest⟩ := List.rdropWhile_prefix isBlank (cs.dropWhile isBlank)
    rw [← hrest, List.head?_append_of_ne_nil _ (by rintro heq; simp [heq] at hc),
      Option.mem_def.1 hc] at hhead
    simpa using hhead
  · intro c hc
    obtain ⟨hne, rfl⟩ := List.mem_getLast?_eq_getLast hc
    exact Bool.eq_false_iff.2 (List.rdropWhile_last_not isBlank (cs.dropWhile isBlank) hne)

/-- A blank at the end of a text is trimmed. -/
lemma trimmed_append_blank {blank : Char} (h : isBlank blank = true) (cs : List Char) :
    trimmed (cs ++ [blank]) = trimmed cs := by
  simp only [trimmed_eq_rdropWhile, List.dropWhile_append]
  split_ifs with hall
  · rw [List.isEmpty_iff.1 hall, List.dropWhile_cons_of_pos h, List.dropWhile_nil]
  · exact List.rdropWhile_concat_pos _ _ _ h

/-- Blanks at both ends of a text are trimmed. -/
lemma trimmed_blanks {before after : List Char} (hbefore : ∀ c ∈ before, isBlank c = true)
    (hafter : ∀ c ∈ after, isBlank c = true) (cs : List Char) :
    trimmed (before ++ cs ++ after) = trimmed cs := by
  have hfront : ∀ more, trimmed (before ++ more) = trimmed more := fun more => by
    rw [trimmed_eq_rdropWhile, List.dropWhile_append_of_pos hbefore, trimmed_eq_rdropWhile]
  rw [List.append_assoc, hfront]
  induction after using List.reverseRecOn with
  | nil => rw [List.append_nil]
  | append_singleton after last ih =>
    rw [List.forall_mem_append] at hafter
    rw [← List.append_assoc, trimmed_append_blank (hafter.2 last (.head _)), ih hafter.1]

/-! ### Blanks in front of a text -/

/-- A text is some blanks and what is left without them. -/
lemma exists_gap (cs : List Char) :
    ∃ gap, (∀ c ∈ gap, isBlank c = true) ∧ cs = gap ++ dropBlanks cs :=
  ⟨cs.takeWhile isBlank, fun _ hc => List.mem_takeWhile_imp hc,
    List.takeWhile_append_dropWhile.symm⟩

lemma dropBlanks_gap {gap cs : List Char} (hgap : ∀ c ∈ gap, isBlank c = true)
    (hcs : ∀ c ∈ cs.head?, isBlank c = false) : dropBlanks (gap ++ cs) = cs := by
  rw [dropBlanks, List.dropWhile_append_of_pos hgap]
  exact dropBlanks_eq_self hcs

@[simp] lemma dropBlanks_dropBlanks (cs : List Char) :
    dropBlanks (dropBlanks cs) = dropBlanks cs := by
  apply dropBlanks_eq_self
  intro c hc
  have hhead := List.head?_dropWhile_not isBlank cs
  rw [dropBlanks] at hc
  rw [Option.mem_def.1 hc] at hhead
  simpa using hhead

end WorldClock.Text
