import WorldClock.Proofs.Time.Figure
/-!
# Local times as they are spelled

A local time without an offset is accepted exactly if it is spelled as a date and a time of day that
exist, and each text is spelled in one way at most (`SpelledTime.eq_of_text_eq`). The spelling is a
loose one: it need not be that of the documented layouts (`ofText_spelled_iff`).
-/

namespace WorldClock

open Text

/-! ### Dates -/

/-- A date as it is spelled. -/
structure SpelledDate where
  year : Figure
  month : Figure
  day : Figure

namespace SpelledDate

/-- The text of a date. -/
def text (date : SpelledDate) : List Char :=
  date.year.text ++ '-' :: (date.month.text ++ '-' :: date.day.text)

/-- The dates that are read: blanks may stand before their numbers. -/
structure IsLoose (date : SpelledDate) : Prop where
  year : Field.year.Takes date.year
  month : Field.month.Takes date.month
  day : Field.day.Takes date.day

/-- What is noted of a date. -/
def readFields (date : SpelledDate) : Fields where
  year := date.year.readNumber
  month := date.month.readNumber.toNat
  day := date.day.readNumber.toNat

variable {fields : Fields} {cs rest : List Char}

lemma read_iff :
    Layout.date.read {} cs = some (fields, rest) ↔
      ∃ date : SpelledDate, date.IsLoose ∧ cs = date.text ++ rest ∧
        Field.day.StopsBefore date.day rest ∧ fields = date.readFields := by
  simp only [Layout.date, Layout.read_number_iff, Layout.read_mark_iff, Layout.read_nil_iff]
  constructor
  · rintro ⟨year, _, hyear, rfl, -, _, rfl, month, _, hmonth, rfl, -, _, rfl, day, _, hday, rfl,
      hstop, hfields, rfl⟩
    exact ⟨⟨year, month, day⟩, ⟨hyear, hmonth, hday⟩, by simp [text], hstop, hfields⟩
  · rintro ⟨⟨year, month, day⟩, ⟨hyear, hmonth, hday⟩, rfl, hstop, hfields⟩
    refine ⟨year, _, hyear, ?_, .inr (by simp), _, rfl, month, _, hmonth, rfl,
      .inr (by simp), _, rfl, day, _, hday, rfl, hstop, hfields, rfl⟩
    simp [text]

end SpelledDate

/-! ### Times of day -/

/-- A time of day as it is spelled. The digits after a decimal point are empty if there is none. -/
structure SpelledClock where
  hour : Figure
  minute : Figure
  second : Option Figure
  fraction : List Char

namespace SpelledClock

/-- The text of a fraction of a second. -/
def fractionText (fraction : List Char) : List Char :=
  if fraction = [] then [] else '.' :: fraction

/-- The text of a time of day behind the minute. -/
def secondText (clock : SpelledClock) : List Char :=
  match clock.second with
  | none => []
  | some second => ':' :: (second.text ++ fractionText clock.fraction)

/-- The text of a time of day. -/
def text (clock : SpelledClock) : List Char :=
  clock.hour.text ++ ':' :: (clock.minute.text ++ clock.secondText)

/-- The times of day that are read. Only behind a second there may be a fraction. -/
structure IsLoose (clock : SpelledClock) : Prop where
  hour : Field.hour.Takes clock.hour
  minute : Field.minute.Takes clock.minute
  second : ∀ second ∈ clock.second, Field.second.Takes second
  fraction : ∀ c ∈ clock.fraction, c.isDigit = true
  fraction_eq_nil : clock.second = none → clock.fraction = []

/-- Notes a time of day. -/
def note (clock : SpelledClock) (fields : Fields) : Fields :=
  { fields with
    hour := clock.hour.readNumber.toNat
    minute := clock.minute.readNumber.toNat
    second := ((clock.second.map Figure.readNumber).getD 0).toNat
    nanos := nanosOf clock.fraction }

variable {a b clock : SpelledClock} {fields fields' : Fields} {cs rest : List Char} {n : Nat}

lemma nanosOf_nil : nanosOf [] = 0 := by
  simp [nanosOf, numberOf]

lemma readFraction_iff :
    readFraction cs = some (n, []) ↔
      ∃ fraction, (∀ c ∈ fraction, c.isDigit = true) ∧ cs = fractionText fraction ∧
        n = nanosOf fraction := by
  constructor
  · intro h
    unfold readFraction at h
    split at h
    · obtain ⟨⟨digits, _⟩, hdigits, heq⟩ := Option.map_eq_some_iff.1 h
      obtain ⟨rfl, hrun, -⟩ := someDigits_eq_some_iff.1 hdigits
      cases heq
      exact ⟨digits, hrun.isDigit, by simp [fractionText, hrun.nonempty], rfl⟩
    · cases h
      exact ⟨[], by simp, rfl, nanosOf_nil.symm⟩
  · rintro ⟨fraction, hdigits, rfl, rfl⟩
    by_cases hnil : fraction = []
    · rw [hnil, nanosOf_nil]
      rfl
    · have hread : someDigits fraction = some (fraction, []) :=
        someDigits_eq_some_iff.2 ⟨(List.append_nil _).symm, ⟨hnil, hdigits⟩, endsRun_nil⟩
      rw [fractionText, if_neg hnil, readFraction, hread]
      rfl

lemma endsRun_fractionText (fraction : List Char) : EndsRun (fractionText fraction) := by
  unfold fractionText
  split_ifs <;> simp

lemma fractionText_inj {a b : List Char} (h : fractionText a = fractionText b) : a = b := by
  unfold fractionText at h
  split_ifs at h with ha hb hb
  · rw [ha, hb]
  · exact (List.cons.inj h).2

lemma endsRun_secondText (clock : SpelledClock) : EndsRun clock.secondText := by
  unfold secondText
  split <;> simp

/-- Without a second nothing is noted of it, nor of a fraction. -/
lemma note_of_minutes (hsecond : fields.second = 0) (hnanos : fields.nanos = 0)
    (hour minute : Figure) :
    note ⟨hour, minute, none, []⟩ fields =
      Field.minute.put minute.readNumber (Field.hour.put hour.readNumber fields) := by
  rw [note, nanosOf_nil, ← hnanos]
  cases fields
  cases hsecond
  rfl

/-- What is read as a time of day, and what is noted of it. -/
lemma read_iff (hsecond : fields.second = 0) (hnanos : fields.nanos = 0) :
    (∃ layout ∈ Layout.clocks, layout.read fields cs = some (fields', [])) ↔
      ∃ clock : SpelledClock, clock.IsLoose ∧ cs = clock.text ∧ fields' = clock.note fields := by
  have hlayouts : (∃ layout ∈ Layout.clocks, layout.read fields cs = some (fields', [])) ↔
      (Layout.seconds ++ [Piece.fraction]).read fields cs = some (fields', []) ∨
        Layout.minutes.read fields cs = some (fields', []) := by
    constructor
    · rintro ⟨layout, hlayout, h⟩
      simp only [Layout.clocks, List.mem_cons, List.not_mem_nil, or_false] at hlayout
      rcases hlayout with rfl | rfl | rfl
      · exact .inl (Layout.read_fraction_of_seconds hnanos h)
      · exact .inl h
      · exact .inr h
    · rintro (h | h)
      · exact ⟨_, by simp [Layout.clocks], h⟩
      · exact ⟨_, by simp [Layout.clocks], h⟩
  rw [hlayouts]
  simp only [Layout.seconds, Layout.minutes, List.cons_append, List.nil_append,
    Layout.read_number_iff, Layout.read_mark_iff, Layout.read_fraction_iff, Layout.read_nil_iff,
    readFraction_iff]
  constructor
  · rintro (⟨hour, _, hhour, rfl, -, _, rfl, minute, _, hminute, rfl, -, _, rfl, second, _, hsec,
      rfl, -, _, ⟨fraction, hfraction, rfl, rfl⟩, rfl⟩ |
      ⟨hour, _, hhour, rfl, -, _, rfl, minute, _, hminute, rfl, -, rfl, rfl⟩)
    · refine ⟨⟨hour, minute, some second, fraction⟩, ⟨hhour, hminute, ?_, hfraction, by simp⟩,
        rfl, rfl⟩
      rintro _ ⟨⟩
      exact hsec
    · exact ⟨⟨hour, minute, none, []⟩, ⟨hhour, hminute, by simp, by simp, by simp⟩, rfl,
        (note_of_minutes hsecond hnanos hour minute).symm⟩
  · rintro ⟨⟨hour, minute, second, fraction⟩, hloose, rfl, rfl⟩
    cases second with
    | none =>
      cases hloose.fraction_eq_nil rfl
      exact .inr ⟨hour, _, hloose.hour, rfl, .inr (by simp), _, rfl, minute, _, hloose.minute, rfl,
        .inr (endsRun_secondText _), note_of_minutes hsecond hnanos hour minute, rfl⟩
    | some second =>
      exact .inl ⟨hour, _, hloose.hour, rfl, .inr (by simp), _, rfl, minute, _, hloose.minute, rfl,
        .inr (endsRun_secondText _), _, rfl, second, _, hloose.second _ rfl, rfl,
        .inr (endsRun_fractionText fraction), _, ⟨fraction, hloose.fraction, rfl, rfl⟩, rfl⟩

/-- A time of day does not begin with a letter. -/
lemma IsLoose.text_ne (h : clock.IsLoose) : clock.text ≠ 'T' :: rest := by
  intro htext
  have hdrop := h.hour.dropBlanks_text (':' :: (clock.minute.text ++ clock.secondText))
  obtain ⟨d, digits, hdigits, hd⟩ := h.hour.digits.exists_cons
  change dropBlanks clock.text = _ at hdrop
  rw [htext, h.hour.unsigned (by decide), hdigits] at hdrop
  cases hdrop
  exact absurd hd (by decide)

/-- The text of a time of day tells how it is spelled. -/
lemma eq_of_text_eq (ha : a.IsLoose) (hb : b.IsLoose) (h : a.text = b.text) : a = b := by
  obtain ⟨ahour, aminute, asecond, afraction⟩ := a
  obtain ⟨bhour, bminute, bsecond, bfraction⟩ := b
  obtain ⟨rfl, h⟩ := ha.hour.unique hb.hour (.inr (by simp)) (.inr (by simp)) h
  obtain ⟨rfl, h⟩ := ha.minute.unique hb.minute (.inr (endsRun_secondText _))
    (.inr (endsRun_secondText _)) (List.cons.inj h).2
  cases asecond with
  | none =>
    cases bsecond with
    | none =>
      cases ha.fraction_eq_nil rfl
      cases hb.fraction_eq_nil rfl
      rfl
    | some second => cases h
  | some second =>
    cases bsecond with
    | none => cases h
    | some second' =>
      obtain ⟨rfl, h⟩ := (ha.second _ rfl).unique (hb.second _ rfl)
        (.inr (endsRun_fractionText _)) (.inr (endsRun_fractionText _)) (List.cons.inj h).2
      cases fractionText_inj h
      rfl

end SpelledClock

/-! ### Local times -/

/-- A local time as it is spelled. Between the date and the time of day there may be the letter
`T`. -/
structure SpelledTime where
  date : SpelledDate
  letter : Bool
  clock : SpelledClock

namespace SpelledTime

/-- The text of a local time behind the date. -/
def restText (time : SpelledTime) : List Char :=
  if time.letter then 'T' :: time.clock.text else time.clock.text

/-- The text of a local time. -/
def text (time : SpelledTime) : List Char :=
  time.date.text ++ time.restText

/-- The local times that are read. A day of one digit must be told from the hour, be it by blanks or
by the letter. -/
structure IsLoose (time : SpelledTime) : Prop where
  date : time.date.IsLoose
  clock : time.clock.IsLoose
  apart : time.date.day.digits.length = 2 ∨ time.letter = true ∨ time.clock.hour.gap ≠ []

/-- What is noted of a local time. -/
def readFields (time : SpelledTime) : Fields :=
  time.clock.note time.date.readFields

variable {a b time : SpelledTime} {fields : Fields} {cs : List Char}

/-- Where the day ends is plain if it has two digits, or if no digit follows. -/
lemma stopsBefore_iff {date : SpelledDate} {clock : SpelledClock} (hdate : date.IsLoose)
    (hclock : clock.IsLoose) :
    Field.day.StopsBefore date.day clock.text ↔
      date.day.digits.length = 2 ∨ clock.hour.gap ≠ [] := by
  have hday : date.day.sign = none := hdate.day.unsigned (by decide)
  have hhour : clock.hour.sign = none := hclock.hour.unsigned (by decide)
  have hends : EndsRun clock.text ↔ clock.hour.gap ≠ [] := by
    rw [SpelledClock.text, Figure.text, hhour]
    cases hgap : clock.hour.gap with
    | nil =>
      obtain ⟨d, digits, hdigits, hd⟩ := hclock.hour.digits.exists_cons
      simp [hdigits, hd]
    | cons c gap =>
      have hc := hclock.hour.gap c (hgap ▸ List.mem_cons_self)
      have hdigit : c.isDigit = false := by
        by_contra h
        rw [Bool.not_eq_false] at h
        exact Bool.false_ne_true ((isBlank_of_isDigit h).symm.trans hc)
      simp [hdigit]
  rw [Field.StopsBefore, hends, hday]
  simp [Field.width]

lemma IsLoose.stopsBefore_restText (h : time.IsLoose) :
    Field.day.StopsBefore time.date.day time.restText := by
  obtain ⟨date, letter, clock⟩ := time
  cases letter with
  | true => exact .inr (by simp [restText])
  | false =>
    exact (stopsBefore_iff h.date h.clock).2
      (h.apart.imp_right fun hapart => hapart.resolve_left Bool.false_ne_true)

/-- What is read as a local time, and what is noted of it. -/
lemma read_iff :
    (∃ layout ∈ Layout.accepted, layout.read {} cs = some (fields, [])) ↔
      ∃ time : SpelledTime, time.IsLoose ∧ cs = time.text ∧ fields = time.readFields := by
  simp only [Layout.read_accepted_iff, SpelledDate.read_iff]
  constructor
  · rintro ⟨_, after, ⟨date, hdate, rfl, hstop, rfl⟩, ⟨rest, rfl, hread⟩ | hread⟩
    · obtain ⟨clock, hclock, rfl, rfl⟩ := (SpelledClock.read_iff rfl rfl).1 hread
      exact ⟨⟨date, true, clock⟩, ⟨hdate, hclock, .inr (.inl rfl)⟩, rfl, rfl⟩
    · obtain ⟨clock, hclock, rfl, rfl⟩ := (SpelledClock.read_iff rfl rfl).1 hread
      exact ⟨⟨date, false, clock⟩, ⟨hdate, hclock,
        ((stopsBefore_iff hdate hclock).1 hstop).imp_right .inr⟩, rfl, rfl⟩
  · rintro ⟨time, htime, rfl, rfl⟩
    have hstop := htime.stopsBefore_restText
    have hread : ∃ layout ∈ Layout.clocks,
        layout.read time.date.readFields time.clock.text = some (time.readFields, []) :=
      (SpelledClock.read_iff rfl rfl).2 ⟨time.clock, htime.clock, rfl, rfl⟩
    refine ⟨_, time.restText, ⟨time.date, htime.date, rfl, hstop, rfl⟩, ?_⟩
    unfold restText
    split_ifs
    · exact .inl ⟨_, rfl, hread⟩
    · exact .inr hread

lemma eq_of_restText_eq (ha : a.IsLoose) (hb : b.IsLoose) (h : a.restText = b.restText) :
    a.letter = b.letter ∧ a.clock = b.clock := by
  obtain ⟨_, letter, clock⟩ := a
  obtain ⟨_, letter', clock'⟩ := b
  cases letter <;> cases letter'
  · exact ⟨rfl, SpelledClock.eq_of_text_eq ha.clock hb.clock h⟩
  · exact absurd h ha.clock.text_ne
  · exact absurd h.symm hb.clock.text_ne
  · exact ⟨rfl, SpelledClock.eq_of_text_eq ha.clock hb.clock (List.cons.inj h).2⟩

/-- A text that is read is spelled in one way only. -/
lemma eq_of_text_eq (ha : a.IsLoose) (hb : b.IsLoose) (h : a.text = b.text) : a = b := by
  obtain ⟨⟨ayear, amonth, aday⟩, aletter, aclock⟩ := a
  obtain ⟨⟨byear, bmonth, bday⟩, bletter, bclock⟩ := b
  simp only [text, SpelledDate.text, List.append_assoc, List.cons_append] at h
  obtain ⟨rfl, hmonth⟩ := ha.date.year.unique hb.date.year (.inr (by simp)) (.inr (by simp)) h
  obtain ⟨rfl, hday⟩ := ha.date.month.unique hb.date.month (.inr (by simp)) (.inr (by simp))
    (List.cons.inj hmonth).2
  obtain ⟨rfl, hrest⟩ := ha.date.day.unique hb.date.day ha.stopsBefore_restText
    hb.stopsBefore_restText (List.cons.inj hday).2
  obtain ⟨rfl, rfl⟩ := eq_of_restText_eq ha hb hrest
  rfl

/-! ### Real times -/

/-- Whether there is a date and a time of day with the numbers that are spelled. The second 60 is a
leap second. -/
structure IsReal (time : SpelledTime) : Prop where
  year : Fields.YearInRange time.date.year.number
  date : ∃ date : Date, (date.year : Int) = time.date.year.number ∧
    (date.month : Int) = time.date.month.number ∧ (date.day : Int) = time.date.day.number
  hour : time.clock.hour.number ≤ 23
  minute : time.clock.minute.number ≤ 59
  second : ∀ second ∈ time.clock.second, second.number ≤ 60

end SpelledTime

/-- A fraction is less than a second. -/
lemma nanosOf_lt {digits : List Char} (h : ∀ c ∈ digits, c.isDigit = true) :
    nanosOf digits < 1000000000 := by
  have hlt : numberOf (digits.take 9) < 10 ^ (digits.take 9).length :=
    numberOf_lt_pow fun c hc => h c (List.mem_of_mem_take hc)
  have hpow : 10 ^ (digits.take 9).length * 10 ^ (9 - digits.length) = 10 ^ 9 := by
    rw [← pow_add, List.length_take]
    congr 1
    omega
  calc nanosOf digits
      < 10 ^ (digits.take 9).length * 10 ^ (9 - digits.length) :=
        Nat.mul_lt_mul_of_pos_right hlt (Nat.pow_pos (by decide))
    _ = 10 ^ 9 := hpow

/-- Numbers denote a local time exactly if there is such a date and such a time of day. -/
lemma Fields.exists_localTime?_iff {fields : Fields} (hnanos : fields.nanos < 1000000000) :
    (∃ time, fields.localTime? = some time) ↔
      (∃ date : Date, date.year = fields.year ∧ date.month = fields.month ∧
        date.day = fields.day) ∧
        YearInRange fields.year ∧ fields.hour ≤ 23 ∧ fields.minute ≤ 59 ∧ fields.second ≤ 60 := by
  constructor
  · rintro ⟨time, htime⟩
    obtain ⟨date, hdate, htime⟩ := Option.bind_eq_some_iff.1 htime
    obtain ⟨⟨hyear, hhour, hminute, hsecond, -⟩, -⟩ := Option.dite_none_right_eq_some.1 htime
    refine ⟨⟨date, ?_⟩, hyear, hhour, hminute, hsecond⟩
    unfold Date.ofFields? at hdate
    split_ifs at hdate
    cases hdate
    exact ⟨rfl, rfl, rfl⟩
  · rintro ⟨⟨date, hyear, hmonth, hday⟩, hrange, hhour, hminute, hsecond⟩
    have hdate := Date.ofFields?_self date
    rw [hyear, hmonth, hday] at hdate
    simp only [localTime?, hdate, Option.bind_eq_bind, Option.bind_some]
    rw [dif_pos ⟨hrange, hhour, hminute, hsecond, hnanos⟩]
    exact ⟨_, rfl⟩

/-- Whether a figure is just a number of digits. -/
structure Figure.IsPlain (figure : Figure) (width : Nat) : Prop where
  gap : figure.gap = []
  sign : figure.sign = none
  length : figure.digits.length = width

namespace SpelledTime

variable {time : SpelledTime} {cs : List Char}

/-- The spelling of the documented layouts. The year has four digits and every other number two, and
one letter or one space stands between the date and the time of day. -/
structure IsPlain (time : SpelledTime) : Prop where
  year : time.date.year.IsPlain 4
  month : time.date.month.IsPlain 2
  day : time.date.day.IsPlain 2
  separator : time.letter = true ∧ time.clock.hour.gap = [] ∨
    time.letter = false ∧ time.clock.hour.gap = [' ']
  hour : time.clock.hour.digits.length = 2
  minute : time.clock.minute.IsPlain 2
  second : ∀ second ∈ time.clock.second, second.IsPlain 2

/-- The texts in a documented layout that denote a real time. -/
def IsDocumented (cs : List Char) : Prop :=
  ∃ time : SpelledTime, cs = time.text ∧ time.IsLoose ∧ time.IsPlain ∧ time.IsReal

lemma IsLoose.exists_localTime?_iff (h : time.IsLoose) :
    (∃ shown, time.readFields.localTime? = some shown) ↔ time.IsReal := by
  have hmonth := h.date.month.toNat_readNumber (by decide)
  have hday := h.date.day.toNat_readNumber (by decide)
  have hhour := h.clock.hour.toNat_readNumber (by decide)
  have hminute := h.clock.minute.toNat_readNumber (by decide)
  have hsecond : time.readFields.second ≤ 60 ↔
      ∀ second ∈ time.clock.second, second.number ≤ 60 := by
    unfold readFields SpelledClock.note
    cases hsome : time.clock.second with
    | none => simp
    | some second =>
      have hread := (h.clock.second second hsome).toNat_readNumber (by decide)
      simp only [Option.map_some, Option.getD_some, Option.mem_some_iff, forall_eq']
      omega
  rw [Fields.exists_localTime?_iff (nanosOf_lt h.clock.fraction), hsecond]
  constructor
  · rintro ⟨⟨date, hyear', hmonth', hday'⟩, hrange', hhour', hminute', hsecond'⟩
    have hrange := (Figure.yearInRange_readNumber _).1 hrange'
    have hdate : ∃ date : Date, date.year = time.date.year.number ∧
        (date.month : Int) = time.date.month.number ∧ (date.day : Int) = time.date.day.number := by
      refine ⟨date, hyear'.trans (Figure.readNumber_eq_number hrange), ?_, ?_⟩
      · rw [hmonth', ← hmonth]
        rfl
      · rw [hday', ← hday]
        rfl
    exact ⟨hrange, hdate, hhour ▸ Int.ofNat_le.2 hhour', hminute ▸ Int.ofNat_le.2 hminute',
      hsecond'⟩
  · rintro ⟨hrange, ⟨date, hyear', hmonth', hday'⟩, hhour', hminute', hsecond'⟩
    refine ⟨⟨date, hyear'.trans (Figure.readNumber_eq_number hrange).symm, ?_, ?_⟩,
      (Figure.yearInRange_readNumber _).2 hrange, ?_, ?_, hsecond'⟩
    · exact Int.ofNat.inj (hmonth'.trans hmonth.symm)
    · exact Int.ofNat.inj (hday'.trans hday.symm)
    · exact Int.ofNat_le.1 (hhour.trans_le hhour')
    · exact Int.ofNat_le.1 (hminute.trans_le hminute')

/-- A text denotes a local time exactly if it is spelled as a real one. -/
lemma exists_firstLocalTime?_iff :
    (∃ shown, Layout.firstLocalTime? Layout.accepted cs = some shown) ↔
      ∃ time : SpelledTime, cs = time.text ∧ time.IsLoose ∧ time.IsReal := by
  simp only [Layout.firstLocalTime?_eq_some_iff, Layout.localTime?_eq_some_iff]
  constructor
  · rintro ⟨shown, layout, hlayout, fields, hread, hshown⟩
    obtain ⟨time, hloose, htext, rfl⟩ := read_iff.1 ⟨layout, hlayout, hread⟩
    exact ⟨time, htext, hloose, hloose.exists_localTime?_iff.1 ⟨shown, hshown⟩⟩
  · rintro ⟨time, htext, hloose, hreal⟩
    obtain ⟨shown, hshown⟩ := hloose.exists_localTime?_iff.2 hreal
    obtain ⟨layout, hlayout, hread⟩ := read_iff.2 ⟨time, hloose, htext, rfl⟩
    exact ⟨shown, layout, hlayout, _, hread, hshown⟩

end SpelledTime

/-! ### What is accepted -/

namespace SpelledTime

/-- A date and a time of day in minutes, spelled in digits alone. -/
def ofDigits (year month day : List Char) (letter : Bool) (hour minute : List Char) : SpelledTime :=
  ⟨⟨⟨[], none, year⟩, ⟨[], none, month⟩, ⟨[], none, day⟩⟩, letter,
    ⟨⟨[], none, hour⟩, ⟨[], none, minute⟩, none, []⟩⟩

lemma isLoose_ofDigits {year month day hour minute : List Char} {letter : Bool}
    (h : ∀ number ∈ [(Field.year, year), (.month, month), (.day, day), (.hour, hour),
        (.minute, minute)],
      number.2 ≠ [] ∧ number.2.all Char.isDigit = true ∧ number.2.length ≤ number.1.width)
    (hapart : day.length = 2 ∨ letter = true) :
    (ofDigits year month day letter hour minute).IsLoose where
  date := ⟨Field.takes_digits (h (.year, year) (by simp)),
    Field.takes_digits (h (.month, month) (by simp)), Field.takes_digits (h (.day, day) (by simp))⟩
  clock := ⟨Field.takes_digits (h (.hour, hour) (by simp)),
    Field.takes_digits (h (.minute, minute) (by simp)), by simp [ofDigits], by simp [ofDigits],
    fun _ => rfl⟩
  apart := hapart.imp_right .inl

end SpelledTime

/-- A text that is no timestamp is refused for its form exactly if it does not denote a local
time. -/
lemma ofText_ne_invalidTime_iff (zone : Zone) {text : String}
    (hstamp : Instant.ofTimestamp? (trimmed text.toList) = none) :
    (∀ time, Instant.ofText text zone ≠ .error (.invalidTime time)) ↔
      ∃ shown, Layout.firstLocalTime? Layout.accepted (trimmed text.toList) = some shown := by
  cases hfirst : Layout.firstLocalTime? Layout.accepted (trimmed text.toList) with
  | none =>
    have htext : Instant.ofText text zone = .error (.invalidTime (trim text)) := by
      simp only [Instant.ofText, hstamp, hfirst]
    simp [htext]
  | some shown =>
    have htext : ∀ time, Instant.ofText text zone ≠ .error (.invalidTime time) := by
      intro time h
      simp only [Instant.ofText, hstamp, hfirst] at h
      split at h <;> cases h
    simp [htext]

/-- A text that is no timestamp is accepted exactly if it is spelled as a real time. Then it is in a
documented layout exactly if that spelling is plain. -/
theorem ofText_spelled_iff (zone : Zone) {text : String}
    (hstamp : Instant.ofTimestamp? (trimmed text.toList) = none) :
    ((∀ time, Instant.ofText text zone ≠ .error (.invalidTime time)) ↔
        ∃ spelled : SpelledTime, trimmed text.toList = spelled.text ∧ spelled.IsLoose ∧
          spelled.IsReal) ∧
      ∀ spelled : SpelledTime, trimmed text.toList = spelled.text → spelled.IsLoose →
        spelled.IsReal → (SpelledTime.IsDocumented (trimmed text.toList) ↔ spelled.IsPlain) := by
  refine ⟨(ofText_ne_invalidTime_iff zone hstamp).trans SpelledTime.exists_firstLocalTime?_iff,
    ?_⟩
  intro spelled htext hloose hreal
  constructor
  · rintro ⟨other, hother, hotherLoose, hplain, -⟩
    rwa [SpelledTime.eq_of_text_eq hloose hotherLoose (htext.symm.trans hother)]
  · exact fun hplain => ⟨spelled, htext, hloose, hplain, hreal⟩

/-- Numbers of one digit are accepted, in no documented layout. -/
theorem ofText_spelled_iff_short :
    Instant.ofTimestamp? (trimmed "2025-1-5T9:5".toList) = none ∧
      (∀ time, Instant.ofText "2025-1-5T9:5" Zone.utc ≠ .error (.invalidTime time)) ∧
      ¬ SpelledTime.IsDocumented (trimmed "2025-1-5T9:5".toList) := by
  have hstamp : Instant.ofTimestamp? (trimmed "2025-1-5T9:5".toList) = none := by decide +kernel
  obtain ⟨haccepted, hdocumented⟩ := ofText_spelled_iff Zone.utc hstamp
  let spelled := SpelledTime.ofDigits ['2', '0', '2', '5'] ['1'] ['5'] true ['9'] ['5']
  have htext : trimmed "2025-1-5T9:5".toList = spelled.text := by decide +kernel
  have hloose : spelled.IsLoose := SpelledTime.isLoose_ofDigits (by decide) (.inr rfl)
  have hreal : spelled.IsReal :=
    ⟨by decide, ⟨⟨2025, 1, 5, by decide, by decide, by decide, by decide⟩, by decide⟩, by decide,
      by decide, by simp [spelled, SpelledTime.ofDigits]⟩
  refine ⟨hstamp, haccepted.2 ⟨spelled, htext, hloose, hreal⟩, fun h => ?_⟩
  exact absurd ((hdocumented spelled htext hloose hreal).1 h).month.length (by decide)

/-- A date and a time of day with nothing in between are accepted, in no documented layout. -/
theorem ofText_unseparated :
    Instant.ofTimestamp? (trimmed "2025-01-1509:00".toList) = none ∧
      (∀ time, Instant.ofText "2025-01-1509:00" Zone.utc ≠ .error (.invalidTime time)) ∧
      ¬ SpelledTime.IsDocumented (trimmed "2025-01-1509:00".toList) := by
  have haccepted : ∀ time, Instant.ofText "2025-01-1509:00" Zone.utc ≠
      .error (.invalidTime time) := by
    have hok : (Instant.ofText "2025-01-1509:00" Zone.utc).isOk = true := by decide +kernel
    intro time h
    rw [h] at hok
    cases hok
  refine ⟨by decide +kernel, haccepted, ?_⟩
  rintro ⟨other, hother, hotherLoose, hplain, -⟩
  let spelled :=
    SpelledTime.ofDigits ['2', '0', '2', '5'] ['0', '1'] ['1', '5'] false ['0', '9'] ['0', '0']
  have htext : trimmed "2025-01-1509:00".toList = spelled.text := by decide +kernel
  have hloose : spelled.IsLoose := SpelledTime.isLoose_ofDigits (by decide) (.inl rfl)
  obtain rfl := SpelledTime.eq_of_text_eq hloose hotherLoose (htext.symm.trans hother)
  rcases hplain.separator with ⟨hletter, -⟩ | ⟨-, hgap⟩
  · cases hletter
  · cases hgap

end WorldClock
