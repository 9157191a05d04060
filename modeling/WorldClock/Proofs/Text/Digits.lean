import Mathlib.Data.List.TakeWhile
import Mathlib.Tactic
import WorldClock.Text.Digits
/-!
# Decimal digits of numbers

A number that is written with zeros in front is read back by the number of its digits
(`Text.exactDigits_padded`). One that is written without them starts with a zero only if it is zero,
and is read back up to a limit. Of a run of digits as many are read as there are, or as many as the
limit allows (`Text.fewDigits_eq_some_iff`).
-/

namespace WorldClock.Text

lemma numberOf_eq_ofDigitChars (digits : List Char) :
    numberOf digits = Nat.ofDigitChars 10 digits 0 := by
  rw [Nat.ofDigitChars_eq_foldl]
  rfl

@[simp] lemma numberOf_padded (width n : Nat) : numberOf (padded width n) = n := by
  rw [numberOf_eq_ofDigitChars, padded, Nat.ofDigitChars_append, Nat.ofDigitChars_replicate_zero,
    mul_zero]
  exact Nat.ofDigitChars_ten_toDigits

lemma isDigit_of_mem_padded {width n : Nat} {c : Char} (h : c ∈ padded width n) :
    c.isDigit = true := by
  rcases List.mem_append.1 h with hzero | hdigit
  · obtain rfl := List.eq_of_mem_replicate hzero
    rfl
  · exact Nat.isDigit_of_mem_toDigits (by decide) le_rfl hdigit

lemma length_padded {width n : Nat} (hwidth : 0 < width) (h : n < 10 ^ width) :
    (padded width n).length = width := by
  have hle : (decimal n).length ≤ width := (Nat.length_toDigits_le_iff (by decide) hwidth).2 h
  simp [padded, hle]

lemma exactDigits_padded {width n : Nat} (hwidth : 0 < width) (h : n < 10 ^ width)
    (rest : List Char) : exactDigits width (padded width n ++ rest) = some (n, rest) := by
  have hlength := length_padded hwidth h
  have hall : (padded width n).all Char.isDigit = true :=
    List.all_eq_true.2 fun c hc => isDigit_of_mem_padded hc
  rw [exactDigits, List.take_left' hlength, List.drop_left' hlength, if_pos ⟨hlength, hall⟩,
    numberOf_padded]

/-! ### Numbers without leading zeros -/

lemma numberUpTo_eq_min (limit : Nat) (digits : List Char) :
    numberUpTo limit digits = min (limit + 1) (numberOf digits) := by
  induction digits using List.reverseRecOn with
  | nil => rfl
  | append_singleton digits digit ih =>
    simp only [numberUpTo, numberOf, List.foldl_concat] at ih ⊢
    rw [ih]
    omega

@[simp] lemma numberOf_decimal (n : Nat) : numberOf (decimal n) = n := by
  rw [numberOf_eq_ofDigitChars]
  exact Nat.ofDigitChars_ten_toDigits

lemma isDigit_of_mem_decimal {n : Nat} {c : Char} (h : c ∈ decimal n) : c.isDigit = true :=
  Nat.isDigit_of_mem_toDigits (by decide) le_rfl h

/-- The digits of a number up to the last one start like the digits of the whole. -/
lemma exists_decimal_eq_cons {n : Nat} (h : 0 < n) :
    ∃ first rest, decimal n = first :: rest ∧ first ≠ '0' := by
  induction n using Nat.strong_induction_on with
  | h n ih =>
    by_cases hlt : n < 10
    · exact ⟨n.digitChar, [], Nat.toDigits_of_lt_base hlt, by simpa using h.ne'⟩
    · obtain ⟨first, rest, hcons, hfirst⟩ := ih (n / 10) (by omega) (by omega)
      rw [decimal] at hcons
      refine ⟨first, rest ++ [(n % 10).digitChar], ?_, hfirst⟩
      rw [decimal, Nat.toDigits_of_base_le (by decide) (not_lt.1 hlt), hcons, List.cons_append]

lemma numberOf_lt_pow {digits : List Char} (h : ∀ c ∈ digits, c.isDigit = true) :
    numberOf digits < 10 ^ digits.length := by
  induction digits using List.reverseRecOn with
  | nil => simp [numberOf]
  | append_singleton digits digit ih =>
    rw [List.forall_mem_append] at h
    have hdigit := h.2 digit (.head _)
    have hlt := ih h.1
    rw [Char.isDigit_iff_toNat] at hdigit
    simp only [Char.reduceToNat] at hdigit
    rw [List.length_append, List.length_singleton, pow_succ]
    simp only [numberOf, List.foldl_concat, digitValue, Char.reduceToNat] at hlt ⊢
    omega

/-! ### Runs of digits in front of a text -/

/-- At least one digit, and nothing else. -/
structure IsRun (digits : List Char) : Prop where
  nonempty : digits ≠ []
  isDigit : ∀ c ∈ digits, c.isDigit = true

lemma IsRun.exists_cons {digits : List Char} (h : IsRun digits) :
    ∃ digit rest, digits = digit :: rest ∧ digit.isDigit = true := by
  obtain ⟨digit, rest, rfl⟩ := List.exists_cons_of_ne_nil h.nonempty
  exact ⟨digit, rest, rfl, h.isDigit digit (.head _)⟩

/-- Whether a run of digits does not go on with the rest of a text. -/
def EndsRun (rest : List Char) : Prop :=
  ∀ c ∈ rest.head?, c.isDigit = false

@[simp] lemma endsRun_nil : EndsRun [] := by simp [EndsRun]

@[simp] lemma endsRun_cons {c : Char} {rest : List Char} :
    EndsRun (c :: rest) ↔ c.isDigit = false := by simp [EndsRun]

lemma takeWhile_append_of_endsRun {digits rest : List Char}
    (hdigits : ∀ c ∈ digits, c.isDigit = true) (hrest : EndsRun rest) :
    (digits ++ rest).takeWhile Char.isDigit = digits := by
  rw [List.takeWhile_append_of_pos hdigits]
  cases rest with
  | nil => simp
  | cons c rest => simp [endsRun_cons.1 hrest]

lemma endsRun_dropWhile (cs : List Char) : EndsRun (cs.dropWhile Char.isDigit) := by
  intro c hc
  have hhead := List.head?_dropWhile_not Char.isDigit cs
  rw [Option.mem_def.1 hc] at hhead
  simpa using hhead

lemma someDigits_eq_some_iff {cs digits rest : List Char} :
    someDigits cs = some (digits, rest) ↔ cs = digits ++ rest ∧ IsRun digits ∧ EndsRun rest := by
  constructor
  · intro h
    unfold someDigits at h
    split at h
    · cases h
    · next hne =>
      cases h
      exact ⟨List.takeWhile_append_dropWhile.symm, ⟨hne, fun c hc => List.mem_takeWhile_imp hc⟩,
        endsRun_dropWhile cs⟩
  · rintro ⟨rfl, hrun, hrest⟩
    have htake := takeWhile_append_of_endsRun hrun.isDigit hrest
    have hdrop : (digits ++ rest).dropWhile Char.isDigit = rest := by
      have happend := List.takeWhile_append_dropWhile (p := Char.isDigit) (l := digits ++ rest)
      rw [htake] at happend
      exact List.append_cancel_left happend
    rw [someDigits, htake, hdrop]
    cases digits with
    | nil => exact absurd rfl hrun.nonempty
    | cons digit digits => rfl

/-- Digits are read up to the limit, or up to the first character that is none. -/
lemma fewDigits_eq_some_iff {limit n : Nat} {cs rest : List Char} :
    fewDigits limit cs = some (n, rest) ↔
      ∃ digits, cs = digits ++ rest ∧ IsRun digits ∧ digits.length ≤ limit ∧
        (digits.length = limit ∨ EndsRun rest) ∧ n = numberOf digits := by
  constructor
  · intro h
    unfold fewDigits at h
    split at h
    · cases h
    · next hne =>
      cases h
      obtain ⟨rest, hrest⟩ := (List.takeWhile_prefix Char.isDigit).trans (List.take_prefix limit cs)
      generalize hdigits : (cs.take limit).takeWhile Char.isDigit = digits at *
      subst hrest
      have hall : ∀ c ∈ digits, c.isDigit = true := by
        rw [← hdigits]
        exact fun c hc => List.mem_takeWhile_imp hc
      have hle : digits.length ≤ limit := by
        rw [← hdigits]
        exact (List.takeWhile_prefix _).length_le.trans (List.length_take_le _ _)
      refine ⟨digits, by simp, ⟨hne, hall⟩, hle, ?_, rfl⟩
      -- Another digit within the limit would have been taken as well.
      by_contra hmore
      rw [not_or, List.drop_left] at hmore
      rw [List.take_append, List.take_of_length_le hle,
        List.takeWhile_append_of_pos hall] at hdigits
      cases rest with
      | nil => exact hmore.2 endsRun_nil
      | cons c rest =>
        obtain ⟨k, hk⟩ := Nat.exists_eq_succ_of_ne_zero (by omega : limit - digits.length ≠ 0)
        have hc : c.isDigit = true := by simpa using hmore.2
        rw [hk] at hdigits
        simp [hc] at hdigits
  · rintro ⟨digits, rfl, hrun, hle, hstop, rfl⟩
    have hends : EndsRun (rest.take (limit - digits.length)) := by
      rcases hstop with hfull | hrest
      · simp [hfull]
      · cases limit - digits.length with
        | zero => simp
        | succ k => simpa [EndsRun, List.head?_take] using hrest
    have htake : ((digits ++ rest).take limit).takeWhile Char.isDigit = digits := by
      rw [List.take_append, List.take_of_length_le hle]
      exact takeWhile_append_of_endsRun hrun.isDigit hends
    rw [fewDigits, htake]
    cases digits with
    | nil => exact absurd rfl hrun.nonempty
    | cons digit digits => simp

lemma mark_eq_some_iff {c : Char} {cs rest : List Char} :
    mark c cs = some rest ↔ cs = c :: rest := by
  cases cs <;> simp [mark]

end WorldClock.Text
