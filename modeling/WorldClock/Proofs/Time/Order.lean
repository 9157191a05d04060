import Mathlib.Tactic
import WorldClock.Time.Instant
/-!
# The order of time

Instants are in line, and of two instants the later one is the greater one.
-/

namespace WorldClock

instance : LE Instant where
  le a b := ¬ b.before a = true

namespace Instant

variable {a b : Instant}

lemma le_iff : a ≤ b ↔ a.seconds < b.seconds ∨ a.seconds = b.seconds ∧ a.nanos ≤ b.nanos := by
  change ¬ b.before a = true ↔ _
  simp only [before, Bool.or_eq_true, Bool.and_eq_true, decide_eq_true_eq, beq_iff_eq]
  omega

lemma le_refl (instant : Instant) : instant ≤ instant := by
  change ¬ instant.before instant = true
  simp [before]

lemma le_of_seconds_lt (h : a.seconds < b.seconds) : a ≤ b :=
  le_iff.2 (.inl h)

instance : DecidableLE Instant := fun a b => inferInstanceAs (Decidable (¬ b.before a = true))

instance : LinearOrder Instant where
  le_refl := le_refl
  le_trans a b c hab hbc := by
    rw [le_iff] at hab hbc ⊢
    omega
  le_antisymm a b hab hba := by
    rw [le_iff] at hab hba
    apply Instant.ext <;> omega
  le_total a b := by
    rw [le_iff, le_iff]
    omega
  toDecidableLE := inferInstance

lemma latest_eq_max (a b : Instant) : latest a b = max a b := by
  rw [latest, max_comm, max_def]
  exact (ite_not (a.before b = true) a b).symm

end Instant

end WorldClock
