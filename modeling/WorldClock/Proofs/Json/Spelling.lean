import Mathlib.Tactic
import WorldClock.Json.Token
import WorldClock.Proofs.Text.Digits
/-!
# Spellings of JSON tokens

The ways in which tokens can be written: a character of a string stands for itself or is named by
one of its escapes, and there may be blanks between any two tokens. The scanner reads every spelling
back (`Json.scan_of_spells`), as long as no number follows directly on a number. Of the numbers only
integers are spelled here.
-/

namespace WorldClock.Json

/-! ### Integers -/

/-- An integer as it is written. -/
def Numeral.ofInt (n : Int) : Numeral := ⟨decide (n < 0), Text.decimal n.natAbs, [], none⟩

/-- Whether an integer fits into 64 bits, with or without a sign. -/
def isWord (n : Int) : Bool := -0x8000000000000000 ≤ n && n ≤ 0xFFFFFFFFFFFFFFFF

/-- An integer that fits into 64 bits is read exactly. -/
lemma Numeral.int_ofInt {n : Int} (h : isWord n = true) : (ofInt n).int? = some n := by
  simp only [isWord, Bool.and_eq_true, decide_eq_true_eq] at h
  have hsize : Text.numberUpTo maxWord (Text.decimal n.natAbs) = n.natAbs := by
    rw [Text.numberUpTo_eq_min, Text.numberOf_decimal, maxWord]
    omega
  by_cases hn : n < 0
  · have hbounds : 0 < n.natAbs ∧ n.natAbs ≤ 0x8000000000000000 := by omega
    have hvalue : -(n.natAbs : Int) = n := by omega
    simp only [int?, ofInt, hsize, hn, hbounds, hvalue, decide_true, and_self, if_true, ne_eq,
      not_true_eq_false, Option.isSome_none, Bool.false_eq_true, or_self, if_false]
  · have hbound : n.natAbs ≤ maxWord := by rw [maxWord]; omega
    have hvalue : (n.natAbs : Int) = n := by omega
    simp only [int?, ofInt, hsize, hn, hbound, hvalue, decide_false, if_true, ne_eq,
      not_true_eq_false, Option.isSome_none, Bool.false_eq_true, or_self, if_false]

lemma Numeral.value_ofInt {n : Int} (h : isWord n = true) : (ofInt n).value? = some (.int n) := by
  simp [value?, int_ofInt h]

/-! ### Characters of strings -/

/-- The escapes of one letter, each with the character that it names. -/
def letterEscapes : List (Char × Char) :=
  [('"', '"'), ('\\', '\\'), ('/', '/'), ('b', '\x08'), ('f', '\x0c'), ('n', '\n'), ('r', '\r'),
    ('t', '\t')]

/-- The two cases of a hexadecimal digit. -/
inductive SpellsDigit (n : Nat) : Char → Prop
  | lower : SpellsDigit n (Nat.digitChar n)
  | upper : SpellsDigit n (Nat.digitChar n).toUpper

/-- The four hexadecimal digits of a number of 16 bits. -/
inductive SpellsUnit (n : Nat) : List Char → Prop
  | digits {a b c d : Char} (ha : SpellsDigit (n / 0x1000) a)
      (hb : SpellsDigit (n / 0x100 % 0x10) b) (hc : SpellsDigit (n / 0x10 % 0x10) c)
      (hd : SpellsDigit (n % 0x10) d) : SpellsUnit n [a, b, c, d]

/-- The ways to write a character of a string. -/
inductive SpellsChar (c : Char) : List Char → Prop
  | plain (hvisible : 0x20 ≤ c.toNat) (hquote : c ≠ '"') (hbackslash : c ≠ '\\') :
      SpellsChar c [c]
  | letter {letter : Char} (h : (letter, c) ∈ letterEscapes) : SpellsChar c ['\\', letter]
  | unit {digits : List Char} (hsmall : c.toNat < 0x10000) (h : SpellsUnit c.toNat digits) :
      SpellsChar c ('\\' :: 'u' :: digits)
  /-- A character above U+FFFF is named by the two halves of a surrogate pair. -/
  | pair {first second : List Char} (hlarge : 0x10000 ≤ c.toNat)
      (hfirst : SpellsUnit (0xD800 + (c.toNat - 0x10000) / 0x400) first)
      (hsecond : SpellsUnit (0xDC00 + (c.toNat - 0x10000) % 0x400) second) :
      SpellsChar c ('\\' :: 'u' :: (first ++ '\\' :: 'u' :: second))

/-- The ways to write the characters of a string. -/
inductive SpellsChars : List Char → List Char → Prop
  | nil : SpellsChars [] []
  | cons {c : Char} {text written cs : List Char} (hc : SpellsChar c written)
      (hrest : SpellsChars text cs) : SpellsChars (c :: text) (written ++ cs)

lemma SpellsDigit.visible {n : Nat} {c : Char} (h : SpellsDigit n c) : 0x20 ≤ c.toNat := by
  by_cases hn : n < 16
  · cases h <;> revert n <;> decide
  · have hstar : Nat.digitChar n = '*' := Nat.digitChar_eq_star.2 (not_lt.1 hn)
    cases h <;> rw [hstar] <;> decide

lemma SpellsUnit.visible {n : Nat} {cs : List Char} (h : SpellsUnit n cs) :
    ∀ c ∈ cs, 0x20 ≤ c.toNat := by
  obtain ⟨ha, hb, hc, hd⟩ := h
  simp [ha.visible, hb.visible, hc.visible, hd.visible]

/-- However a character of a string is written, it takes no control characters. -/
lemma SpellsChar.visible {c : Char} {cs : List Char} (h : SpellsChar c cs) :
    ∀ d ∈ cs, 0x20 ≤ d.toNat := by
  have hescape : 0x20 ≤ ('\\' : Char).toNat ∧ 0x20 ≤ ('u' : Char).toNat := by decide
  cases h with
  | plain hvisible => exact List.forall_mem_singleton.2 hvisible
  | @letter letter h =>
    have hletter : 0x20 ≤ letter.toNat :=
      (by decide : ∀ escape ∈ letterEscapes, 0x20 ≤ escape.1.toNat) _ h
    simp [hletter]
  | unit hsmall h => exact List.forall_mem_cons.2 ⟨hescape.1, List.forall_mem_cons.2
      ⟨hescape.2, h.visible⟩⟩
  | pair hlarge hfirst hsecond =>
    simp only [List.forall_mem_cons, List.forall_mem_append]
    exact ⟨hescape.1, hescape.2, hfirst.visible, hescape.1, hescape.2, hsecond.visible⟩

lemma SpellsChars.visible {text cs : List Char} (h : SpellsChars text cs) :
    ∀ c ∈ cs, 0x20 ≤ c.toNat := by
  induction h with
  | nil => simp
  | cons hc _ ih => exact List.forall_mem_append.2 ⟨hc.visible, ih⟩

/-! ### Tokens -/

/-- The ways to write a token. -/
inductive Token.Spells : Token → List Char → Prop
  | openArray : Spells .openArray ['[']
  | closeArray : Spells .closeArray [']']
  | openObject : Spells .openObject ['\x7b']
  | closeObject : Spells .closeObject ['\x7d']
  | comma : Spells .comma [',']
  | colon : Spells .colon [':']
  | null : Spells .null ['n', 'u', 'l', 'l']
  | true : Spells (.bool true) ['t', 'r', 'u', 'e']
  | false : Spells (.bool false) ['f', 'a', 'l', 's', 'e']
  | number (n : Int) : Spells (.number (.ofInt n)) (Text.integer n)
  | text {text : String} {cs : List Char} (h : SpellsChars text.toList cs) :
      Spells (.text (some text)) ('"' :: (cs ++ ['"']))

/-- The characters that may stand between two tokens. -/
def isGap (c : Char) : Bool :=
  c = ' ' || c = '\t' || c = '\n' || c = '\r'

/-- The ways to write a list of tokens, with gaps between them. -/
inductive Spells : List Token → List Char → Prop
  | last {token : Token} {cs : List Char} (h : token.Spells cs) : Spells [token] cs
  | cons {token : Token} {rest : List Token} {cs gap more : List Char} (h : token.Spells cs)
      (hgap : ∀ c ∈ gap, isGap c = true) (hmore : Spells rest more) :
      Spells (token :: rest) (cs ++ gap ++ more)

/-- Whether a token is a number. -/
def Token.isNumber : Token → Bool
  | .number _ => Bool.true
  | _ => Bool.false

/-- Two tokens that can be told apart if one follows directly on the other. -/
def Token.Apart (a b : Token) : Prop := a.isNumber = Bool.true → b.isNumber = Bool.false

/-! ### Runs of the scanner -/

/-- A run of the scanner over some characters. -/
def Scanner.Takes (s : Scanner) (cs : List Char) (t : Scanner) : Prop :=
  cs.foldlM step s = some t

namespace Scanner

variable {s t u : Scanner} {c : Char} {cs ds : List Char} {done : List Token}

@[simp] lemma takes_nil : s.Takes [] t ↔ s = t := by simp [Takes, pure]

@[simp] lemma takes_cons : s.Takes (c :: cs) t ↔ ∃ u, step s c = some u ∧ u.Takes cs t := by
  simp [Takes, Option.bind_eq_some_iff]

lemma Takes.append (h : s.Takes cs t) (hmore : t.Takes ds u) : s.Takes (cs ++ ds) u := by
  simp only [Takes, List.foldlM_append] at *
  rw [h]
  exact hmore

/-! ### Strings -/

lemma hexDigit_of_spellsDigit {n : Nat} (hn : n < 16) (h : SpellsDigit n c) :
    hexDigit? c = some n := by
  cases h <;> revert n <;> decide

lemma takes_unit (done : List Token) (quote : Quote) {unit : Nat} (hsmall : unit < 0x10000)
    (h : SpellsUnit unit cs) :
    Takes ⟨done, .unit quote 4 0⟩ cs ⟨done, .text (quote.pushUnit unit)⟩ := by
  obtain ⟨ha, hb, hc, hd⟩ := h
  have hunit : (((unit / 0x1000) * 16 + unit / 0x100 % 0x10) * 16 + unit / 0x10 % 0x10) * 16 +
      unit % 0x10 = unit := by omega
  simp [step, hexDigit_of_spellsDigit (by omega) ha, hexDigit_of_spellsDigit (by omega) hb,
    hexDigit_of_spellsDigit (by omega) hc, hexDigit_of_spellsDigit (by omega) hd, hunit]

/-- A character is no half of a surrogate pair. -/
lemma pushUnit_toNat (text : List Char) (c : Char) :
    Quote.pushUnit ⟨some text, none⟩ c.toNat = ⟨some (c :: text), none⟩ := by
  have hvalid : c.toNat < 0xD800 ∨ 0xDFFF < c.toNat := by
    rcases c.valid with h | ⟨h, -⟩
    · exact .inl h
    · exact .inr h
  have hfirst : ¬ (0xD800 ≤ c.toNat ∧ c.toNat ≤ 0xDBFF) := by omega
  have hsecond : ¬ (0xDC00 ≤ c.toNat ∧ c.toNat ≤ 0xDFFF) := by omega
  rw [Quote.pushUnit, if_neg hfirst, if_neg hsecond]
  simp [Quote.push]

lemma toNat_lt (c : Char) : c.toNat < 0x110000 := by
  rcases c.valid with h | ⟨-, h⟩
  · exact h.trans (by decide)
  · exact h

/-- The two halves of a surrogate pair name the character together. -/
lemma pushUnit_pair (text : List Char) (c : Char) (hlarge : 0x10000 ≤ c.toNat) :
    (Quote.pushUnit ⟨some text, none⟩ (0xD800 + (c.toNat - 0x10000) / 0x400)).pushUnit
      (0xDC00 + (c.toNat - 0x10000) % 0x400) = ⟨some (c :: text), none⟩ := by
  have hmax := toNat_lt c
  set rest := c.toNat - 0x10000 with hrest
  have hfirst : 0xD800 ≤ 0xD800 + rest / 0x400 ∧ 0xD800 + rest / 0x400 ≤ 0xDBFF := by omega
  have hhalf : Quote.pushUnit ⟨some text, none⟩ (0xD800 + rest / 0x400) =
      ⟨some text, some (0xD800 + rest / 0x400)⟩ := by
    rw [Quote.pushUnit, if_pos hfirst]
    rfl
  have hnotFirst : ¬ (0xD800 ≤ 0xDC00 + rest % 0x400 ∧ 0xDC00 + rest % 0x400 ≤ 0xDBFF) := by omega
  have hsecond : 0xDC00 ≤ 0xDC00 + rest % 0x400 ∧ 0xDC00 + rest % 0x400 ≤ 0xDFFF := by omega
  have hsum : 0x10000 + (0xD800 + rest / 0x400 - 0xD800) * 0x400 +
      (0xDC00 + rest % 0x400 - 0xDC00) = c.toNat := by omega
  rw [hhalf, Quote.pushUnit, if_neg hnotFirst, if_pos hsecond]
  simp only [hsum, Char.ofNat_toNat, Option.map_some]

/-- Whichever way a character is written, it is added to the string. -/
lemma takes_char (done : List Token) (text : List Char) (h : SpellsChar c cs) :
    Takes ⟨done, .text ⟨some text, none⟩⟩ cs ⟨done, .text ⟨some (c :: text), none⟩⟩ := by
  cases h with
  | plain hvisible hquote hbackslash =>
    simp [step, Quote.push, hquote, hbackslash, Nat.not_lt.2 hvisible]
  | letter h =>
    simp only [letterEscapes, List.mem_cons, Prod.mk.injEq, List.not_mem_nil, or_false] at h
    rcases h with ⟨rfl, rfl⟩ | ⟨rfl, rfl⟩ | ⟨rfl, rfl⟩ | ⟨rfl, rfl⟩ | ⟨rfl, rfl⟩ | ⟨rfl, rfl⟩ |
      ⟨rfl, rfl⟩ | ⟨rfl, rfl⟩ <;> rfl
  | unit hsmall h =>
    have hunit := takes_unit done ⟨some text, none⟩ hsmall h
    rw [pushUnit_toNat] at hunit
    simpa [step] using hunit
  | pair hlarge hfirst hsecond =>
    have hmax := toNat_lt c
    have htake := takes_unit done ⟨some text, none⟩ (by omega) hfirst
    have htakeSecond := takes_unit done
      (Quote.pushUnit ⟨some text, none⟩ (0xD800 + (c.toNat - 0x10000) / 0x400))
      (by omega) hsecond
    rw [pushUnit_pair text c hlarge] at htakeSecond
    rw [takes_cons]
    refine ⟨_, rfl, ?_⟩
    rw [takes_cons]
    refine ⟨_, rfl, htake.append ?_⟩
    rw [takes_cons]
    refine ⟨_, rfl, ?_⟩
    rw [takes_cons]
    exact ⟨_, rfl, htakeSecond⟩

lemma takes_chars (done : List Token) (text : List Char) {more : List Char}
    (h : SpellsChars more cs) :
    Takes ⟨done, .text ⟨some text, none⟩⟩ cs ⟨done, .text ⟨some (more.reverse ++ text), none⟩⟩ := by
  induction h generalizing text with
  | nil => simp
  | cons hc _ ih => simpa using (takes_char done text hc).append (ih _)

/-! ### Numbers -/

lemma takes_digits (done : List Token) (figure : Figure) (hplace : figure.place = .whole)
    {digits : List Char} (h : ∀ c ∈ digits, c.isDigit = true) :
    Takes ⟨done, .number figure⟩ digits
      ⟨done, .number ⟨{ figure.numeral with whole := digits.reverse ++ figure.numeral.whole },
        .whole⟩⟩ := by
  induction digits generalizing figure with
  | nil =>
    obtain ⟨numeral, place⟩ := figure
    cases hplace
    simp
  | cons c digits ih =>
    have hstep : step ⟨done, .number figure⟩ c = some ⟨done, .number
        ⟨{ figure.numeral with whole := c :: figure.numeral.whole }, .whole⟩⟩ := by
      simp [step, h c (.head _), Figure.pushDigit, hplace]
    rw [takes_cons]
    refine ⟨_, hstep, ?_⟩
    simpa using ih ⟨_, .whole⟩ rfl fun c hc => h c (.tail _ hc)

/-- A number that may end, unless more of it follows. -/
def Holds (figure : Figure) (numeral : Numeral) : Prop :=
  (figure.place = .zero ∨ figure.place = .whole) ∧ figure.token? = some (.number numeral)

lemma takes_decimal (done : List Token) (negative : Bool) (n : Nat) :
    ∃ figure, Holds figure ⟨negative, Text.decimal n, [], none⟩ ∧
      Takes ⟨done, .number (Figure.start negative)⟩ (Text.decimal n) ⟨done, .number figure⟩ := by
  rcases Nat.eq_zero_or_pos n with rfl | hpos
  · exact ⟨⟨⟨negative, ['0'], [], none⟩, .zero⟩, ⟨.inl rfl, rfl⟩, rfl⟩
  · obtain ⟨first, rest, hdecimal, hfirst⟩ := Text.exists_decimal_eq_cons hpos
    have hdigits : ∀ c ∈ first :: rest, c.isDigit = true := fun c hc =>
      Text.isDigit_of_mem_decimal (hdecimal ▸ hc)
    rw [hdecimal]
    refine ⟨⟨⟨negative, rest.reverse ++ [first], [], none⟩, .whole⟩, ⟨.inr rfl, ?_⟩, ?_⟩
    · simp [Figure.token?]
    · rw [takes_cons]
      refine ⟨⟨done, .number ⟨⟨negative, [first], [], none⟩, .whole⟩⟩, ?_,
        takes_digits done _ rfl fun c hc => hdigits c (.tail _ hc)⟩
      simp [step, hdigits first (.head _), Figure.pushDigit, Figure.start, hfirst]

/-- Between two tokens a digit is taken as it is after the sign of a number. -/
lemma begin_digit (h : c.isDigit = true) :
    begin done c = step ⟨done, .number (Figure.start false)⟩ c := by
  have hcases : c ∉ [' ', '\t', '\n', '\r', '[', ']', '\x7b', '\x7d', ',', ':', '"', 'n', 't', 'f',
      '-'] := by
    intro hmem
    simp only [List.mem_cons, List.not_mem_nil, or_false] at hmem
    rcases hmem with rfl | rfl | rfl | rfl | rfl | rfl | rfl | rfl | rfl | rfl | rfl | rfl | rfl |
      rfl | rfl <;> exact absurd h (by decide)
  simp only [List.mem_cons, List.not_mem_nil, or_false, not_or] at hcases
  simp [begin, step, h, hcases]

lemma takes_integer (done : List Token) (n : Int) :
    ∃ figure, Holds figure (.ofInt n) ∧
      Takes ⟨done, .between⟩ (Text.integer n) ⟨done, .number figure⟩ := by
  obtain ⟨figure, hfigure, htakes⟩ := takes_decimal done (decide (n < 0)) n.natAbs
  refine ⟨figure, hfigure, ?_⟩
  by_cases hn : n < 0
  · rw [Text.integer, if_pos hn, takes_cons]
    exact ⟨_, rfl, by simpa [hn] using htakes⟩
  · rw [Text.integer, if_neg hn]
    obtain ⟨first, rest, hdecimal⟩ := List.exists_cons_of_ne_nil
      (Nat.toDigits_ne_nil (n := n.natAbs) (b := 10))
    have hfirst : first.isDigit = true :=
      Text.isDigit_of_mem_decimal (n := n.natAbs) (by rw [Text.decimal, hdecimal]; exact .head _)
    rw [Text.decimal, hdecimal, takes_cons] at htakes ⊢
    rw [decide_eq_false hn] at htakes
    obtain ⟨next, hstep, hrest⟩ := htakes
    exact ⟨next, (begin_digit hfirst).trans hstep, hrest⟩

/-! ### Between two tokens -/

/-- Whether the scanner has read some tokens and may go on with another one. A number ends only when
the character after it is seen. -/
inductive HasRead : List Token → Scanner → Prop
  | between (done : List Token) : HasRead done ⟨done.reverse, .between⟩
  | number (done : List Token) {figure : Figure} {numeral : Numeral}
      (h : Holds figure numeral) :
      HasRead (done ++ [.number numeral]) ⟨done.reverse, .number figure⟩

/-- Whether a character can go on with a number. -/
def extendsNumber (c : Char) : Bool :=
  c.isDigit || c = '.' || c = 'e' || c = 'E'

/-- A character that does not go on with a number is taken as if the number had ended before. -/
lemma HasRead.step_eq (h : HasRead done s) (hc : extendsNumber c = false) :
    step s c = step ⟨done.reverse, .between⟩ c := by
  cases h with
  | between => rfl
  | number done hfigure =>
    obtain ⟨hplace, htoken⟩ := hfigure
    simp only [extendsNumber, Bool.or_eq_false_iff, decide_eq_false_iff_not] at hc
    obtain ⟨⟨⟨hdigit, hpoint⟩, hlower⟩, hupper⟩ := hc
    rcases hplace with hplace | hplace <;>
      simp [step, hdigit, Figure.pushMark, hplace, hpoint, hlower, hupper, htoken]

lemma HasRead.takes_iff (h : HasRead done s) (hc : extendsNumber c = false) :
    s.Takes (c :: cs) t ↔ Takes ⟨done.reverse, .between⟩ (c :: cs) t := by
  rw [takes_cons, takes_cons, h.step_eq hc]

/-- A gap leaves the tokens as they are. -/
lemma HasRead.gap (h : HasRead done s) (hgap : ∀ c ∈ cs, isGap c = true) :
    ∃ t, s.Takes cs t ∧ HasRead done t := by
  induction cs generalizing s with
  | nil => exact ⟨s, takes_nil.2 rfl, h⟩
  | cons c cs ih =>
    obtain ⟨hc, hcs⟩ := List.forall_mem_cons.1 hgap
    have hstep : step ⟨done.reverse, .between⟩ c = some ⟨done.reverse, .between⟩ ∧
        extendsNumber c = false := by
      simp only [isGap, Bool.or_eq_true, decide_eq_true_eq] at hc
      rcases hc with ((rfl | rfl) | rfl) | rfl <;> exact ⟨rfl, rfl⟩
    obtain ⟨t, htakes, hread⟩ := ih (.between done) hcs
    exact ⟨t, takes_cons.2 ⟨_, (h.step_eq hstep.2).trans hstep.1, htakes⟩, hread⟩

end Scanner

open Scanner

variable {s : Scanner} {token : Token} {tokens done : List Token} {cs : List Char}

lemma Token.Spells.exists_cons (h : token.Spells cs) :
    ∃ c rest, cs = c :: rest ∧ (token.isNumber = Bool.false → extendsNumber c = Bool.false) := by
  cases h with
  | number n =>
    obtain ⟨c, rest, hcons⟩ : ∃ c rest, Text.integer n = c :: rest := by
      unfold Text.integer
      split_ifs
      · exact ⟨_, _, rfl⟩
      · exact List.exists_cons_of_ne_nil Nat.toDigits_ne_nil
    exact ⟨c, rest, hcons, by simp [isNumber]⟩
  | _ => exact ⟨_, _, rfl, fun _ => rfl⟩

lemma visible_integer (n : Int) : ∀ c ∈ Text.integer n, 0x20 ≤ c.toNat := by
  have hdigits : ∀ c ∈ Text.decimal n.natAbs, 0x20 ≤ c.toNat := fun c hc => by
    have hdigit := Text.isDigit_of_mem_decimal hc
    simp only [Char.isDigit, Bool.and_eq_true, decide_eq_true_eq] at hdigit
    exact le_trans (by decide) hdigit.1
  unfold Text.integer
  split_ifs
  · exact List.forall_mem_cons.2 ⟨by decide, hdigits⟩
  · exact hdigits

/-- However a token is written, it takes no control characters. -/
lemma Token.Spells.visible (h : token.Spells cs) : ∀ c ∈ cs, 0x20 ≤ c.toNat := by
  cases h with
  | number n => exact visible_integer n
  | text h =>
    rw [List.forall_mem_cons, List.forall_mem_append]
    exact ⟨by decide, h.visible, by simp⟩
  | _ => simp

/-- Every spelling of a token is read as the token. -/
lemma Token.Spells.hasRead (done : List Token) (h : token.Spells cs) :
    ∃ t, Takes ⟨done.reverse, .between⟩ cs t ∧ HasRead (done ++ [token]) t := by
  have hbetween : HasRead (done ++ [token]) ⟨token :: done.reverse, .between⟩ := by
    simpa using HasRead.between (done ++ [token])
  cases h with
  | number n =>
    obtain ⟨figure, hfigure, htakes⟩ := takes_integer done.reverse n
    exact ⟨_, htakes, .number done hfigure⟩
  | @text text cs h =>
    refine ⟨_, ?_, hbetween⟩
    have htext := takes_chars done.reverse [] h
    rw [takes_cons]
    refine ⟨_, rfl, htext.append ?_⟩
    simp [step, note, Quote.token]
  | _ => exact ⟨_, rfl, hbetween⟩

/-- A token is read after others if it can be told apart from the last of them. -/
lemma Scanner.HasRead.next (h : HasRead done s) (htoken : token.Spells cs)
    (hapart : ∀ last ∈ done.getLast?, Token.Apart last token) :
    ∃ t, s.Takes cs t ∧ HasRead (done ++ [token]) t := by
  cases h with
  | between => exact htoken.hasRead done
  | @number done figure numeral hfigure =>
    obtain ⟨c, rest, rfl, hc⟩ := htoken.exists_cons
    have hnot : token.isNumber = false := hapart (.number numeral) (by simp) rfl
    obtain ⟨t, htakes, hread⟩ := htoken.hasRead (done ++ [.number numeral])
    exact ⟨t, ((HasRead.number done hfigure).takes_iff (hc hnot)).2 htakes, hread⟩

/-- Tokens are read after others, one after the other. -/
lemma Scanner.HasRead.spells (h : HasRead done s) (hspells : Spells tokens cs)
    (hapart : (done ++ tokens).IsChain Token.Apart) :
    ∃ t, s.Takes cs t ∧ HasRead (done ++ tokens) t := by
  induction hspells generalizing done s with
  | last htoken =>
    exact h.next htoken fun last hlast => (List.isChain_append.1 hapart).2.2 last hlast _ rfl
  | @cons token rest cs gap more htoken hgap _ ih =>
    obtain ⟨t, htakes, hread⟩ :=
      h.next htoken fun last hlast => (List.isChain_append.1 hapart).2.2 last hlast _ rfl
    obtain ⟨t', hgaps, hread'⟩ := hread.gap hgap
    obtain ⟨u, hmore, hall⟩ := ih hread' (by simpa using hapart)
    exact ⟨u, (htakes.append hgaps).append hmore, by simpa using hall⟩

lemma Scanner.HasRead.finish_eq (h : HasRead done s) : s.finish = some done := by
  cases h with
  | between => simp [finish]
  | number done hfigure => simp [finish, hfigure.2]

/-- Every spelling of some tokens is scanned as these tokens. -/
theorem scan_of_spells (h : Spells tokens cs) (hapart : tokens.IsChain Token.Apart) :
    scan cs = some tokens := by
  obtain ⟨t, htakes, hread⟩ := (HasRead.between []).spells h hapart
  have hrun : cs.foldlM step start = some t := htakes
  rw [scan, hrun, Option.bind_some, hread.finish_eq, List.nil_append]

/-! ### Putting spellings together -/

variable {more : List Token} {ds : List Char}

lemma Spells.append (h : Spells tokens cs) (hmore : Spells more ds) :
    Spells (tokens ++ more) (cs ++ ds) := by
  induction h with
  | @last token cs h =>
    have hcons : Spells (token :: more) (cs ++ [] ++ ds) := .cons h (by simp) hmore
    simpa using hcons
  | cons h hgap _ ih => simpa using Spells.cons h hgap ih

end WorldClock.Json
