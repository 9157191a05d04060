import Mathlib.Tactic
/-!
# Outcomes of computations that can fail

When such a computation has a result: one that is followed by another (`bind_eq_ok_iff`), one of
whose result something is made (`map_eq_ok_iff`), and a row of them (`mapM_id_eq_ok_iff`).
-/

namespace WorldClock

variable {ε α β : Type}

/-- Computations one after another have a result if the first one has, and the next one with it. -/
lemma bind_eq_ok_iff {computation : Except ε α} {next : α → Except ε β} {result : β} :
    computation >>= next = .ok result ↔
      ∃ value, computation = .ok value ∧ next value = .ok result := by
  cases computation <;> simp [bind, Except.bind]

lemma map_eq_ok_iff {computation : Except ε α} {make : α → β} {result : β} :
    computation.map make = .ok result ↔ ∃ value, computation = .ok value ∧ make value = result := by
  cases computation <;> simp [Except.map]

/-- A row of computations has results exactly if each of them has its own. -/
lemma mapM_id_eq_ok_iff {computations : List (Except ε α)} {results : List α} :
    computations.mapM id = .ok results ↔
      List.Forall₂ (fun computation result => computation = .ok result) computations results := by
  induction computations generalizing results with
  | nil => simp [pure, Except.pure, eq_comm]
  | cons first rest ih =>
    simp only [List.mapM_cons, bind_eq_ok_iff, id_eq, ih, List.forall₂_cons_left_iff]
    refine exists_congr fun value => ⟨?_, ?_⟩
    · rintro ⟨hfirst, values, hrest, hresults⟩
      exact ⟨values, hfirst, hrest, (Except.ok.inj hresults).symm⟩
    · rintro ⟨values, hfirst, hrest, rfl⟩
      exact ⟨hfirst, values, hrest, rfl⟩

end WorldClock
