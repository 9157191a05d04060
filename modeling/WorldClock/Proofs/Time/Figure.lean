import WorldClock.Proofs.Text.Blank
import WorldClock.Proofs.Text.Digits
import WorldClock.Proofs.Time.Layout
import WorldClock.Proofs.Time.Timestamp
/-!
# Numbers of a time as they are spelled

A number of a time is read of blanks, perhaps a sign, and digits (`Field.scan_eq_some_iff`). How it
is spelled is told by the text it stands in front of (`Field.Takes.unique`). With this each piece of
a layout says what it reads, and so does a whole local time as a date and a time of day
(`Layout.read_accepted_iff`).
-/

namespace WorldClock

open Text

/-! ### Figures -/

/-- A number as it is spelled: blanks, perhaps a sign, and digits. -/
structure Figure where
  gap : List Char
  sign : Option Char
  digits : List Char

namespace Figure

/-- The text of a figure. -/
def text (figure : Figure) : List Char :=
  figure.gap ++ (figure.sign.toList ++ figure.digits)

/-- The number that a figure denotes. -/
def number (figure : Figure) : Int :=
  if figure.sign = some '-' then -numberOf figure.digits else numberOf figure.digits

/-- The number that is read of a figure. Those beyond the range of the calendar all pass for the
same one. -/
def readNumber (figure : Figure) : Int :=
  if figure.sign = some '-' then -yearsOf figure.digits else yearsOf figure.digits

/-- Whether a figure is one at all: blanks, a sign or none, and at least one digit. -/
structure IsSpelled (figure : Figure) : Prop where
  gap : ∀ c ∈ figure.gap, isBlank c = true
  sign : ∀ c ∈ figure.sign, c = '+' ∨ c = '-'
  digits : IsRun figure.digits

variable {figure a b : Figure}

lemma isBlank_of_isSign {c : Char} (h : c = '+' ∨ c = '-') : isBlank c = false := by
  rcases h with rfl | rfl <;> decide

lemma isDigit_of_isSign {c : Char} (h : c = '+' ∨ c = '-') : c.isDigit = false := by
  rcases h with rfl | rfl <;> decide

lemma IsSpelled.dropBlanks_text (h : figure.IsSpelled) (rest : List Char) :
    dropBlanks (figure.text ++ rest) = figure.sign.toList ++ figure.digits ++ rest := by
  rw [text, List.append_assoc]
  apply dropBlanks_gap h.gap
  intro c hc
  cases hsign : figure.sign with
  | none =>
    obtain ⟨d, digits, hdigits, hd⟩ := h.digits.exists_cons
    rw [hsign, hdigits] at hc
    cases hc
    exact isBlank_of_isDigit hd
  | some sign =>
    rw [hsign] at hc
    cases hc
    exact isBlank_of_isSign (h.sign c hsign)

/-- The digits begin where the sign ends. -/
lemma IsSpelled.dropWhile_eq (h : figure.IsSpelled) :
    (figure.sign.toList ++ figure.digits).dropWhile (fun c => !c.isDigit) = figure.digits := by
  have hsign : ∀ c ∈ figure.sign.toList, (!c.isDigit) = true := by
    intro c hc
    rw [isDigit_of_isSign (h.sign c (Option.mem_toList.1 hc))]
    rfl
  obtain ⟨d, digits, hdigits, hd⟩ := h.digits.exists_cons
  rw [List.dropWhile_append_of_pos hsign, hdigits, List.dropWhile_cons_of_neg (by simp [hd])]

/-- The text of a figure tells how it is spelled. -/
lemma eq_of_text_eq (ha : a.IsSpelled) (hb : b.IsSpelled) (h : a.text = b.text) : a = b := by
  have hbody : a.sign.toList ++ a.digits = b.sign.toList ++ b.digits := by
    have hdrop := ha.dropBlanks_text []
    rwa [h, hb.dropBlanks_text [], List.append_nil, List.append_nil, eq_comm] at hdrop
  have hdigits : a.digits = b.digits := by
    rw [← ha.dropWhile_eq, hbody, hb.dropWhile_eq]
  have hsign : a.sign = b.sign := by
    rw [hdigits] at hbody
    have hlist := List.append_cancel_right hbody
    cases hasign : a.sign <;> cases hbsign : b.sign <;> simp_all
  have hgap : a.gap = b.gap := by
    rw [text, text, hbody] at h
    exact List.append_cancel_right h
  cases a
  cases b
  simp only at hgap hsign hdigits
  rw [hgap, hsign, hdigits]

/-! ### What is read of a figure -/

lemma yearsOf_eq_min (digits : List Char) :
    yearsOf digits = min (manyYears + 1 : Int) (numberOf digits) := by
  rw [yearsOf, numberUpTo_eq_min]
  push_cast
  rfl

/-- Whether a year is in the range of the calendar is seen from the number that is read, which is
then the one that is denoted. -/
lemma yearInRange_readNumber (figure : Figure) :
    Fields.YearInRange figure.readNumber ↔ Fields.YearInRange figure.number := by
  unfold readNumber number Fields.YearInRange
  rw [yearsOf_eq_min]
  simp only [manyYears]
  split_ifs <;> omega

lemma readNumber_eq_number (h : Fields.YearInRange figure.number) :
    figure.readNumber = figure.number := by
  unfold number Fields.YearInRange at h
  unfold readNumber number
  rw [yearsOf_eq_min]
  simp only [manyYears]
  split_ifs at h ⊢ <;> omega

end Figure

/-! ### Reading figures -/

namespace Field

/-- The number of digits that a number of a time has at most, if it has no sign. -/
def width : Field → Nat
  | year => 4
  | _ => 2

/-- Whether a figure can stand for a number of a time. Only a year may have a sign, and then any
number of digits. -/
structure Takes (field : Field) (figure : Figure) : Prop extends figure.IsSpelled where
  unsigned : field ≠ year → figure.sign = none
  length_le : figure.sign = none → figure.digits.length ≤ field.width

lemma takes_digits {field : Field} {digits : List Char}
    (h : digits ≠ [] ∧ digits.all Char.isDigit = true ∧ digits.length ≤ field.width) :
    field.Takes ⟨[], none, digits⟩ where
  gap := by simp
  sign := by simp
  digits := ⟨h.1, List.all_eq_true.1 h.2.1⟩
  unsigned := fun _ => rfl
  length_le := fun _ => h.2.2

/-- Whether reading a figure stops before the rest of a text. -/
def StopsBefore (field : Field) (figure : Figure) (rest : List Char) : Prop :=
  figure.sign = none ∧ figure.digits.length = field.width ∨ EndsRun rest

/-- Puts a number in its place. -/
def put (field : Field) (n : Int) (fields : Fields) : Fields :=
  match field with
  | year => { fields with year := n }
  | month => { fields with month := n.toNat }
  | day => { fields with day := n.toNat }
  | hour => { fields with hour := n.toNat }
  | minute => { fields with minute := n.toNat }
  | second => { fields with second := n.toNat }

/-- Reads a number of a time behind its blanks. -/
def scan (field : Field) (cs : List Char) : Option (Int × List Char) :=
  match field with
  | year => readYear cs
  | _ => (fewDigits 2 cs).map fun (n, rest) => ((n : Int), rest)

variable {field : Field} {figure a b : Figure} {n : Int} {cs rest rest' : List Char}

lemma read_eq_scan (field : Field) (fields : Fields) (cs : List Char) :
    field.read fields cs =
      (field.scan (dropBlanks cs)).map fun (n, rest) => (field.put n fields, rest) := by
  cases field <;> simp [read, scan, put, Option.map_map, Function.comp_def]

lemma scan_signed {sign : Char} (hsign : sign = '+' ∨ sign = '-') (cs : List Char) :
    year.scan (sign :: cs) = (someDigits cs).map fun (digits, rest) =>
      (if sign = '-' then -yearsOf digits else yearsOf digits, rest) := by
  rcases hsign with rfl | rfl <;> rfl

lemma scan_unsigned (h : field = year → ∀ c ∈ cs.head?, ¬ (c = '+' ∨ c = '-')) :
    field.scan cs = (fewDigits field.width cs).map fun (n, rest) => ((n : Int), rest) := by
  cases field with
  | year =>
    have hunsigned := h rfl
    change readYear cs = _
    unfold readYear
    split
    · exact absurd (.inr rfl) (hunsigned _ rfl)
    · exact absurd (.inl rfl) (hunsigned _ rfl)
    · rfl
  | _ => rfl

lemma width_le (field : Field) : field.width ≤ 4 := by
  cases field <;> decide

lemma numberOf_lt {digits : List Char} (h : IsRun digits) (hle : digits.length ≤ field.width) :
    numberOf digits < 10000 := by
  have hlt := numberOf_lt_pow h.isDigit
  have hpow : 10 ^ digits.length ≤ 10 ^ 4 :=
    Nat.pow_le_pow_right (by decide) (hle.trans field.width_le)
  omega

lemma yearsOf_of_length_le {digits : List Char} (h : IsRun digits)
    (hle : digits.length ≤ field.width) : yearsOf digits = numberOf digits := by
  have hlt := numberOf_lt h hle
  rw [Figure.yearsOf_eq_min, manyYears]
  omega

/-- A number without a sign is read as what it denotes. -/
lemma Takes.toNat_readNumber (h : field.Takes figure) (hfield : field ≠ year) :
    (figure.readNumber.toNat : Int) = figure.number := by
  have hsign := h.unsigned hfield
  rw [Figure.readNumber, Figure.number, hsign, yearsOf_of_length_le h.digits (h.length_le hsign)]
  simp

/-- What is read as a number of a time is the figure in front of a text. -/
lemma scan_eq_some_iff :
    field.scan (dropBlanks cs) = some (n, rest) ↔
      ∃ figure, field.Takes figure ∧ cs = figure.text ++ rest ∧ field.StopsBefore figure rest ∧
        n = figure.readNumber := by
  constructor
  · intro h
    obtain ⟨gap, hgap, hcs⟩ := exists_gap cs
    generalize dropBlanks cs = body at h hcs
    subst hcs
    by_cases hsign : field = year → ∀ c ∈ body.head?, ¬ (c = '+' ∨ c = '-')
    · rw [scan_unsigned hsign] at h
      obtain ⟨⟨n, _⟩, hdigits, heq⟩ := Option.map_eq_some_iff.1 h
      obtain ⟨digits, rfl, hrun, hle, hstop, rfl⟩ := fewDigits_eq_some_iff.1 hdigits
      cases heq
      exact ⟨⟨gap, none, digits⟩, ⟨⟨hgap, by simp, hrun⟩, fun _ => rfl, fun _ => hle⟩,
        by simp [Figure.text], by simpa [StopsBefore] using hstop,
        by simp [Figure.readNumber, yearsOf_of_length_le hrun hle]⟩
    · push Not at hsign
      obtain ⟨rfl, sign, hhead, hsign⟩ := hsign
      obtain ⟨cs, rfl⟩ := List.head?_eq_some_iff.1 hhead
      rw [scan_signed hsign] at h
      obtain ⟨⟨digits, _⟩, hdigits, heq⟩ := Option.map_eq_some_iff.1 h
      obtain ⟨rfl, hrun, hends⟩ := someDigits_eq_some_iff.1 hdigits
      cases heq
      exact ⟨⟨gap, some sign, digits⟩, ⟨⟨hgap, by simpa using hsign, hrun⟩, by simp, by simp⟩,
        by simp [Figure.text], .inr hends, by simp [Figure.readNumber]⟩
  · rintro ⟨⟨gap, sign, digits⟩, htakes, rfl, hstop, rfl⟩
    rw [htakes.dropBlanks_text]
    cases sign with
    | none =>
      have hle := htakes.length_le rfl
      have hread : fewDigits field.width (digits ++ rest) = some (numberOf digits, rest) :=
        fewDigits_eq_some_iff.2
          ⟨digits, rfl, htakes.digits, hle, by simpa [StopsBefore] using hstop, rfl⟩
      have hhead : field = year → ∀ c ∈ (digits ++ rest).head?, ¬ (c = '+' ∨ c = '-') := by
        intro _ c hc hsign
        rw [List.head?_append_of_ne_nil _ htakes.digits.nonempty] at hc
        have hdigit := htakes.digits.isDigit c (List.mem_of_mem_head? hc)
        exact Bool.false_ne_true ((Figure.isDigit_of_isSign hsign).symm.trans hdigit)
      rw [Option.toList_none, List.nil_append, scan_unsigned hhead, hread]
      simp [Figure.readNumber, yearsOf_of_length_le htakes.digits hle]
    | some sign =>
      have hyear : field = year := by
        by_contra hfield
        cases htakes.unsigned hfield
      have hends : EndsRun rest := by simpa [StopsBefore] using hstop
      have hread : someDigits (digits ++ rest) = some (digits, rest) :=
        someDigits_eq_some_iff.2 ⟨rfl, htakes.digits, hends⟩
      rw [Option.toList_some, hyear, List.cons_append, List.nil_append, List.cons_append,
        scan_signed (htakes.sign sign rfl), hread]
      simp [Figure.readNumber]

/-- Two figures in front of the same text are the same if reading stops behind both of them. -/
lemma Takes.unique (ha : field.Takes a) (hb : field.Takes b) (hstop : field.StopsBefore a rest)
    (hstop' : field.StopsBefore b rest') (h : a.text ++ rest = b.text ++ rest') :
    a = b ∧ rest = rest' := by
  have hreada := scan_eq_some_iff.2 ⟨a, ha, rfl, hstop, rfl⟩
  have hreadb := scan_eq_some_iff.2 ⟨b, hb, rfl, hstop', rfl⟩
  rw [h, hreadb, Option.some.injEq, Prod.mk.injEq] at hreada
  obtain ⟨-, rfl⟩ := hreada
  exact ⟨Figure.eq_of_text_eq ha.toIsSpelled hb.toIsSpelled (List.append_cancel_right h), rfl⟩

end Field

/-! ### Reading layouts -/

namespace Layout

variable {field : Field} {layout : Layout} {c : Char} {fields fields' : Fields}
  {cs rest : List Char}

lemma read_number_iff :
    read (.number field :: layout) fields cs = some (fields', rest) ↔
      ∃ figure more, field.Takes figure ∧ cs = figure.text ++ more ∧
        field.StopsBefore figure more ∧
        read layout (field.put figure.readNumber fields) more = some (fields', rest) := by
  simp only [read_cons, Piece.read, Field.read_eq_scan, Option.bind_eq_some_iff,
    Option.map_eq_some_iff, Prod.exists, Prod.mk.injEq, Field.scan_eq_some_iff]
  constructor
  · rintro ⟨_, _, ⟨_, more, ⟨figure, htakes, hcs, hstop, rfl⟩, rfl, rfl⟩, h⟩
    exact ⟨figure, more, htakes, hcs, hstop, h⟩
  · rintro ⟨figure, more, htakes, hcs, hstop, h⟩
    exact ⟨_, _, ⟨_, more, ⟨figure, htakes, hcs, hstop, rfl⟩, rfl, rfl⟩, h⟩

lemma read_mark_iff :
    read (.mark c :: layout) fields cs = some (fields', rest) ↔
      ∃ more, cs = c :: more ∧ read layout fields more = some (fields', rest) := by
  simp only [read_cons, Piece.read, Option.bind_eq_some_iff, Option.map_eq_some_iff,
    Prod.exists, Prod.mk.injEq, mark_eq_some_iff]
  constructor
  · rintro ⟨_, _, ⟨more, hcs, rfl, rfl⟩, h⟩
    exact ⟨more, hcs, h⟩
  · rintro ⟨more, hcs, h⟩
    exact ⟨_, _, ⟨more, hcs, rfl, rfl⟩, h⟩

lemma read_nil_iff : read [] fields cs = some (fields', rest) ↔ fields' = fields ∧ rest = cs := by
  simp [read, eq_comm]

lemma read_fraction_iff :
    read [.fraction] fields cs = some (fields', rest) ↔
      ∃ n, readFraction cs = some (n, rest) ∧ fields' = { fields with nanos := n } := by
  rw [read_cons, Piece.read]
  simp only [Option.bind_eq_some_iff, Option.map_eq_some_iff, Prod.exists, Prod.mk.injEq,
    read_nil_iff]
  constructor
  · rintro ⟨_, _, ⟨n, _, hread, rfl, rfl⟩, rfl, rfl⟩
    exact ⟨n, hread, rfl⟩
  · rintro ⟨n, hread, rfl⟩
    exact ⟨_, _, ⟨n, _, hread, rfl, rfl⟩, rfl, rfl⟩

/-- Blanks before a time of day make no difference. -/
lemma read_clock_dropBlanks (hlayout : layout ∈ clocks) (fields : Fields) (cs : List Char) :
    layout.read fields (dropBlanks cs) = layout.read fields cs := by
  have hhour : ∃ more, layout = .number .hour :: more := by
    fin_cases hlayout <;> exact ⟨_, rfl⟩
  obtain ⟨more, rfl⟩ := hhour
  simp only [read_cons, Piece.read, Field.read_eq_scan, dropBlanks_dropBlanks]

/-- A local time is read as a date and a time of day, perhaps with the letter in between. -/
lemma read_accepted_iff :
    (∃ layout ∈ accepted, layout.read {} cs = some (fields, [])) ↔
      ∃ between after, date.read {} cs = some (between, after) ∧
        ((∃ rest, after = 'T' :: rest ∧
            ∃ clock ∈ clocks, clock.read between rest = some (fields, [])) ∨
          ∃ clock ∈ clocks, clock.read between after = some (fields, [])) := by
  constructor
  · rintro ⟨layout, hlayout, h⟩
    obtain ⟨between, after, hdate, clock, hclock, ⟨rest, hafter, h⟩ | h⟩ :=
      read_of_mem_accepted hlayout h
    · exact ⟨between, after, hdate, .inl ⟨rest, hafter, clock, hclock, h⟩⟩
    · exact ⟨between, after, hdate, .inr ⟨clock, hclock, read_clock_dropBlanks hclock _ _ ▸ h⟩⟩
  · rintro ⟨between, after, hdate, ⟨rest, rfl, clock, hclock, h⟩ | ⟨clock, hclock, h⟩⟩
    · refine ⟨date ++ .mark 'T' :: clock, ?_, ?_⟩
      · simp only [accepted_eq, List.mem_flatMap, List.mem_map]
        exact ⟨_, .head _, clock, hclock, rfl⟩
      · rw [read_append, hdate]
        exact read_mark_iff.2 ⟨rest, rfl, h⟩
    · refine ⟨date ++ .blanks :: clock, ?_, ?_⟩
      · simp only [accepted_eq, List.mem_flatMap, List.mem_map]
        exact ⟨_, .tail _ (.head _), clock, hclock, rfl⟩
      · rw [read_append, hdate]
        exact (read_clock_dropBlanks hclock _ _).trans h

end Layout

end WorldClock
