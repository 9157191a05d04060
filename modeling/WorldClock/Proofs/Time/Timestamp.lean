import WorldClock.Proofs.Text.Digits
import WorldClock.Proofs.Time.Range
import WorldClock.Proofs.Time.Resolution
/-!
# Timestamps and instants

Which instant a written timestamp gives back. It is the second that clocks show at the instant it
was written for (`Instant.wholeSecond`): the fraction is lost, and a leap second stays one only as
the second 60 of a minute of UTC.
-/

namespace WorldClock

open Text

/-! ### The second that is shown -/

/-- What a clock and a calendar show, number by number, with seconds as they are shown. -/
def LocalTime.fields (time : LocalTime) : Fields where
  year := time.date.year
  month := time.date.month
  day := time.date.day
  hour := time.hour
  minute := time.minute
  second := time.shownSecond

namespace Instant

/-- Whether clocks already show the next second: inside a leap second that follows a second other
than the last one of a minute. -/
def Carries (instant : Instant) : Prop :=
  1000000000 ≤ instant.nanos ∧ instant.seconds % 60 ≠ 59

instance (instant : Instant) : Decidable instant.Carries :=
  inferInstanceAs (Decidable (_ ∧ _))

lemma Carries.inRange_succ {instant : Instant} (h : instant.Carries) :
    InRange (instant.seconds + 1) := by
  obtain ⟨-, hsecond⟩ := h
  have hrange := instant.inRange
  simp only [InRange, firstSecond, lastSecond] at hrange ⊢
  omega

lemma wholeNanos_lt (instant : Instant) :
    instant.nanos / 1000000000 * 1000000000 < 2000000000 := by
  have hlt := instant.nanos_lt
  omega

/-- The beginning of the second that clocks show at an instant. -/
def wholeSecond (instant : Instant) : Instant :=
  if h : instant.Carries then ⟨instant.seconds + 1, 0, h.inRange_succ, Nat.zero_lt_succ _⟩
  else ⟨instant.seconds, instant.nanos / 1000000000 * 1000000000, instant.inRange,
    instant.wholeNanos_lt⟩

/-- The number of the second that clocks show at an instant. A leap second counts as the second that
it is written as. -/
def shownSecond (instant : Instant) : Int :=
  instant.seconds + instant.nanos / 1000000000

@[simp] lemma shownSecond_wholeSecond (instant : Instant) :
    instant.wholeSecond.shownSecond = instant.shownSecond := by
  have hnanos := instant.nanos_lt
  rw [wholeSecond, shownSecond, shownSecond]
  split_ifs with h
  · have := h.1
    dsimp only
    omega
  · dsimp only
    omega

lemma wholeSecond_of_not_carries {instant : Instant} (h : ¬ instant.Carries) :
    instant.wholeSecond.seconds = instant.seconds ∧
      instant.wholeSecond.nanos = instant.nanos / 1000000000 * 1000000000 := by
  simp [wholeSecond, h]

lemma wholeSecond_of_carries {instant : Instant} (h : instant.Carries) :
    instant.wholeSecond.seconds = instant.seconds + 1 ∧ instant.wholeSecond.nanos = 0 := by
  simp [wholeSecond, h]

end Instant

/-! ### Reading what was written -/

lemma LocalTime.clock_le (time : LocalTime) :
    time.hour ≤ 23 ∧ time.minute ≤ 59 ∧ time.shownSecond ≤ 60 := by
  have hsecond := time.secondOfDay_lt
  have hnanos := time.nanos_lt
  simp only [hour, minute, shownSecond]
  omega

lemma Date.day_le_31 (date : Date) : date.day ≤ 31 := by
  have hday := date.day_le
  have hleap := leapDays_le_one date.year
  rw [daysInMonth] at hday
  split_ifs at hday <;> omega

/-- All numbers of a local time but the year have two digits. -/
lemma LocalTime.numbers_lt (time : LocalTime) :
    time.date.month < 10 ^ 2 ∧ time.date.day < 10 ^ 2 ∧ time.hour < 10 ^ 2 ∧
      time.minute < 10 ^ 2 ∧ time.shownSecond < 10 ^ 2 := by
  have hmonth := time.date.month_le
  have hday := time.date.day_le_31
  have hclock := time.clock_le
  omega

/-- The numbers of a local time in a year of four digits are read back from its text. -/
lemma readStampFields_text {time : LocalTime} (hlow : 0 ≤ time.date.year)
    (hhigh : time.date.year ≤ 9999) {rest : List Char} (hrest : rest.head? ≠ some '.') :
    readStampFields (time.text ++ rest) = some (time.fields, rest) := by
  obtain ⟨hmonth, hday, hhour, hminute, hsecond⟩ := time.numbers_lt
  have hyear : time.date.year.toNat < 10 ^ 4 := by omega
  have hcast : ((time.date.year.toNat : Nat) : Int) = time.date.year := by omega
  have hfraction : readFraction rest = some (0, rest) := by
    unfold readFraction
    split
    · simp at hrest
    · rfl
  simp only [LocalTime.text, yearText, if_pos (And.intro hlow hhigh), List.append_assoc,
    List.cons_append, readStampFields, exactDigits_padded, hyear, hmonth, hday, hhour, hminute,
    hsecond, Nat.zero_lt_succ, mark, readDateEnd, if_true, true_or, Option.bind_eq_bind,
    Option.bind_some, hfraction, hcast]
  rfl

lemma readOffset_signed {sign : Char} (hsign : sign = '+' ∨ sign = '-') {hours minutes : Nat}
    (hhours : hours ≤ 23) (hminutes : minutes ≤ 59) :
    readOffset (sign :: padded 2 hours ++ ':' :: padded 2 minutes) =
      some ((if sign = '+' then hours * 3600 + minutes * 60
        else -(hours * 3600 + minutes * 60) : Int), []) := by
  have hhour : hours < 10 ^ 2 := by omega
  have hminute : minutes < 10 ^ 2 := by omega
  have hlast := exactDigits_padded Nat.two_pos hminute []
  rw [List.append_nil] at hlast
  rcases hsign with rfl | rfl <;>
    simp [readOffset, exactDigits_padded Nat.two_pos hhour, hlast, mark, guard, hhours, hminutes]

/-- An offset of whole minutes is read back from its text. -/
lemma readOffset_offsetText {offset : Int} (hshort : isShortOffset offset = true)
    (hminutes : offset % 60 = 0) : readOffset (offsetText offset) = some (offset, []) := by
  rw [isShortOffset_iff] at hshort
  rw [offsetText, readOffset_signed (by split_ifs <;> simp) (by omega) (by omega)]
  refine congrArg some (Prod.ext ?_ rfl)
  by_cases hsign : offset < 0
  · simp only [hsign, if_true, Char.reduceEq, if_false]
    omega
  · simp only [hsign, if_true, if_false]
    omega

lemma length_offsetText {offset : Int} (hshort : isShortOffset offset = true) :
    (offsetText offset).length = 6 := by
  rw [isShortOffset_iff] at hshort
  have hhours : (offset.natAbs + 30) / 60 / 60 < 10 ^ 2 := by omega
  have hminutes : (offset.natAbs + 30) / 60 % 60 < 10 ^ 2 := by omega
  simp [offsetText, length_padded Nat.two_pos hhours, length_padded Nat.two_pos hminutes]

lemma head?_offsetText (offset : Int) : (offsetText offset).head? ≠ some '.' := by
  rw [offsetText]
  by_cases hsign : offset < 0 <;> simp [hsign]

lemma Date.ofFields?_self (date : Date) :
    ofFields? date.year date.month date.day = some date :=
  dif_pos ⟨date.month_pos, date.month_le, date.day_pos, date.day_le⟩

/-- The beginning of the second that a clock shows. -/
def LocalTime.wholeSecond (time : LocalTime) : LocalTime where
  date := time.date
  secondOfDay := time.hour * 3600 + time.minute * 60 + min time.shownSecond 59
  nanos := if time.shownSecond = 60 then 1000000000 else 0
  secondOfDay_lt := by
    have := time.clock_le
    omega
  nanos_lt := by split <;> omega

/-- The numbers of a local time denote the beginning of the second that is shown. -/
lemma localTime?_fields {time : LocalTime} (hlow : 0 ≤ time.date.year)
    (hhigh : time.date.year ≤ 9999) : time.fields.localTime? = some time.wholeSecond := by
  obtain ⟨hhour, hminute, hsecond⟩ := time.clock_le
  have hclock : Fields.YearInRange time.date.year ∧ time.hour ≤ 23 ∧ time.minute ≤ 59 ∧
      time.shownSecond ≤ 60 ∧ 0 < 1000000000 :=
    ⟨⟨by omega, by omega⟩, hhour, hminute, hsecond, by decide⟩
  simp only [Fields.localTime?, LocalTime.fields, Date.ofFields?_self, Option.bind_eq_bind,
    Option.bind_some, dif_pos hclock, Nat.zero_add]
  rfl

lemma Instant.of?_eq_some_iff {seconds : Int} {nanos : Nat} {instant : Instant} :
    of? seconds nanos = some instant ↔ seconds = instant.seconds ∧ nanos = instant.nanos := by
  rw [of?]
  constructor
  · intro h
    split_ifs at h
    cases h
    exact ⟨rfl, rfl⟩
  · rintro ⟨rfl, rfl⟩
    exact dif_pos ⟨instant.inRange, instant.nanos_lt⟩

/-- A timestamp gives back the second that clocks show at the instant it was written for. -/
lemma ofTimestamp?_text {instant : Instant} {offset : Int}
    (hlow : 0 ≤ (instant.localTime offset).date.year)
    (hhigh : (instant.localTime offset).date.year ≤ 9999)
    (hshort : isShortOffset offset = true) (hminutes : offset % 60 = 0) :
    Instant.ofTimestamp? ((instant.localTime offset).text ++ offsetText offset) =
      some instant.wholeSecond := by
  have hread := readStampFields_text hlow hhigh (head?_offsetText offset)
  have hof : Instant.of? ((instant.localTime offset).wholeSecond.second - offset)
      (instant.localTime offset).wholeSecond.nanos = some instant.wholeSecond := by
    have hday : (instant.localTime offset).date.dayNumber = (instant.seconds + offset) / 86400 :=
      Date.dayNumber_ofDayNumber _
    have hclock : (instant.localTime offset).secondOfDay =
        ((instant.seconds + offset) % 86400).toNat := rfl
    have hfraction : (instant.localTime offset).nanos = instant.nanos := rfl
    have hlt := instant.nanos_lt
    rw [Instant.of?_eq_some_iff]
    simp only [LocalTime.second, LocalTime.wholeSecond, LocalTime.hour, LocalTime.minute,
      LocalTime.shownSecond, hday, hclock, hfraction]
    by_cases hcarries : instant.Carries
    · rw [(Instant.wholeSecond_of_carries hcarries).1,
        (Instant.wholeSecond_of_carries hcarries).2]
      rw [Instant.Carries] at hcarries
      split_ifs <;> omega
    · rw [(Instant.wholeSecond_of_not_carries hcarries).1,
        (Instant.wholeSecond_of_not_carries hcarries).2]
      rw [Instant.Carries] at hcarries
      split_ifs <;> omega
  simp only [Instant.ofTimestamp?, hread, readOffset_offsetText hshort hminutes,
    localTime?_fields hlow hhigh, hof, Option.bind_eq_bind, Option.bind_some, List.isEmpty_nil,
    guard, if_true]
  rfl

/-! ### The form of a timestamp -/

/-- Whether a character stands for another one in a pattern: `d` for a digit, `±` for a sign, and
any other for itself. -/
def fitsMark (mark c : Char) : Bool :=
  if mark = 'd' then c.isDigit
  else if mark = '±' then c == '+' || c == '-'
  else c == mark

/-- The pattern of a timestamp in a year of four digits. -/
def stampPattern : String := "dddd-dd-ddTdd:dd:dd±dd:dd"

/-- Whether a text fits a pattern, character by character. -/
def Fits (pattern : List Char) (cs : List Char) : Prop :=
  List.Forall₂ (fun mark c => fitsMark mark c = true) pattern cs

lemma fits_padded {width n : Nat} (hwidth : 0 < width) (h : n < 10 ^ width) :
    Fits (List.replicate width 'd') (padded width n) := by
  refine List.forall₂_iff_get.2 ⟨by rw [List.length_replicate, length_padded hwidth h], ?_⟩
  intro i hi hi'
  simp only [List.get_eq_getElem, List.getElem_replicate]
  exact isDigit_of_mem_padded (List.getElem_mem hi')

lemma Fits.append {pattern pattern' cs cs' : List Char} (h : Fits pattern cs)
    (h' : Fits pattern' cs') : Fits (pattern ++ pattern') (cs ++ cs') :=
  List.rel_append h h'

lemma Fits.cons {mark c : Char} {pattern cs : List Char} (hmark : fitsMark mark c = true)
    (h : Fits pattern cs) : Fits (mark :: pattern) (c :: cs) :=
  List.Forall₂.cons hmark h

lemma fits_two {mark c : Char} (hmark : fitsMark mark c = true) {n : Nat} (h : n < 10 ^ 2) :
    Fits (mark :: List.replicate 2 'd') (c :: padded 2 n) :=
  .cons hmark (fits_padded Nat.two_pos h)

/-- A local time in a year of four digits, and an offset, have the form of a timestamp. -/
lemma fits_stampPattern {time : LocalTime} (hlow : 0 ≤ time.date.year)
    (hhigh : time.date.year ≤ 9999) {offset : Int} (hshort : isShortOffset offset = true) :
    Fits stampPattern.toList (time.text ++ offsetText offset) := by
  rw [isShortOffset_iff] at hshort
  obtain ⟨hmonth, hday, hhour, hminute, hsecond⟩ := time.numbers_lt
  have hyear : time.date.year.toNat < 10 ^ 4 := by omega
  have hsign : fitsMark '±' (if offset < 0 then '-' else '+') = true := by
    split_ifs <;> decide
  have hpattern : stampPattern.toList =
      (List.replicate 4 'd' ++ '-' :: List.replicate 2 'd' ++ '-' :: List.replicate 2 'd' ++
        'T' :: List.replicate 2 'd' ++ ':' :: List.replicate 2 'd' ++
        ':' :: List.replicate 2 'd') ++
      ('±' :: List.replicate 2 'd' ++ ':' :: List.replicate 2 'd') := by decide
  rw [hpattern, LocalTime.text, yearText, if_pos ⟨hlow, hhigh⟩]
  refine .append ?_ (.append (fits_two hsign (by omega)) (fits_two rfl (by omega)))
  have hdate := (((fits_padded four_pos hyear).append (fits_two rfl hmonth)).append
    (fits_two rfl hday) : Fits (_ ++ '-' :: _ ++ '-' :: _) (_ ++ '-' :: _ ++ '-' :: _))
  exact ((hdate.append (fits_two rfl hhour)).append (fits_two rfl hminute)).append
    (fits_two rfl hsecond)

lemma isBlank_of_isDigit {c : Char} (h : c.isDigit = true) : isBlank c = false := by
  rw [Char.isDigit_iff_toNat] at h
  simp only [Char.reduceToNat] at h
  simp only [isBlank, Bool.or_eq_false_iff, Bool.and_eq_false_iff, decide_eq_false_iff_not,
    beq_eq_false_iff_ne]
  omega

lemma isBlank_of_fitsMark {mark c : Char} (hmark : isBlank mark = false)
    (h : fitsMark mark c = true) : isBlank c = false := by
  rw [fitsMark] at h
  split_ifs at h with hdigit hsign
  · exact isBlank_of_isDigit h
  · rcases Bool.or_eq_true_iff.1 h with hplus | hminus
    · rw [beq_iff_eq.1 hplus]
      decide
    · rw [beq_iff_eq.1 hminus]
      decide
  · rwa [beq_iff_eq.1 h]

/-- A timestamp has no blank characters at its ends. -/
lemma trimmed_of_fits {cs : List Char} (h : Fits stampPattern.toList cs) : trimmed cs = cs := by
  have hpattern : stampPattern.toList.all (fun mark => !isBlank mark) = true := by decide +kernel
  apply trimmed_eq_self
  intro c hc
  obtain ⟨i, hi, rfl⟩ := List.getElem_of_mem hc
  obtain ⟨hlength, hfits⟩ := List.forall₂_iff_get.1 h
  have hi' : i < stampPattern.toList.length := hlength ▸ hi
  have hblank := List.all_eq_true.1 hpattern _ (List.getElem_mem hi')
  exact isBlank_of_fitsMark (by simpa using hblank) (hfits i hi' hi)

/-! ### Timestamps in a zone -/

namespace Instant

lemma isExpressible_iff {instant : Instant} {zone : Zone} :
    instant.isExpressible zone = true ↔
      (0 ≤ (zone.localTime instant).date.year ∧ (zone.localTime instant).date.year ≤ 9999) ∧
        zone.offsetAt instant % 60 = 0 := by
  simp [isExpressible]

/-- The timestamp of an instant in a zone that shows it in full. -/
def stamp (instant : Instant) (zone : Zone) : String :=
  String.ofList ((zone.localTime instant).text ++ WorldClock.offsetText (zone.offsetAt instant))

@[simp] lemma toList_stamp (instant : Instant) (zone : Zone) :
    (instant.stamp zone).toList =
      (zone.localTime instant).text ++ WorldClock.offsetText (zone.offsetAt instant) :=
  String.toList_ofList

lemma isShortOffset_offsetAt (instant : Instant) (zone : Zone) :
    isShortOffset (zone.offsetAt instant) = true :=
  zone.history.isShortOffset_offsetAt _

variable {instant : Instant} {zone : Zone}

lemma timestamp_of_isExpressible (h : instant.isExpressible zone = true) :
    instant.timestamp zone = .ok (instant.stamp zone) :=
  if_pos (inRange_of_isExpressible h)

lemma fits_stamp (h : instant.isExpressible zone = true) :
    Fits stampPattern.toList (instant.stamp zone).toList := by
  obtain ⟨⟨hlow, hhigh⟩, -⟩ := isExpressible_iff.1 h
  rw [toList_stamp]
  exact fits_stampPattern hlow hhigh (isShortOffset_offsetAt instant zone)

/-- What a timestamp says: the numbers that clocks show, and then the offset. -/
lemma read_stamp (h : instant.isExpressible zone = true) :
    ∃ rest, readStampFields (instant.stamp zone).toList =
        some ((zone.localTime instant).fields, rest) ∧
      readOffset rest = some (zone.offsetAt instant, []) := by
  obtain ⟨⟨hlow, hhigh⟩, hminutes⟩ := isExpressible_iff.1 h
  rw [toList_stamp]
  exact ⟨_, readStampFields_text hlow hhigh (head?_offsetText _),
    readOffset_offsetText (isShortOffset_offsetAt instant zone) hminutes⟩

/-- A timestamp denotes the second that clocks show, whatever zone it is read in. -/
lemma ofText_stamp (h : instant.isExpressible zone = true) (source : Zone) :
    Instant.ofText (instant.stamp zone) source = .ok instant.wholeSecond := by
  obtain ⟨⟨hlow, hhigh⟩, hminutes⟩ := isExpressible_iff.1 h
  have hread : Instant.ofTimestamp? (instant.stamp zone).toList = some instant.wholeSecond := by
    rw [toList_stamp]
    exact ofTimestamp?_text hlow hhigh (isShortOffset_offsetAt instant zone) hminutes
  simp only [Instant.ofText, trimmed_of_fits (fits_stamp h), hread]

end Instant

end WorldClock
