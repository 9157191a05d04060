import Mathlib.Tactic
import WorldClock.Time.Conversion
/-!
# The range of the calendar

When a computation with times comes to a stop. The timestamp of an instant in a zone does so exactly
if the local time lies beyond the range of the calendar (`stops_timestamp_iff`). A conversion never
does, since it refuses beforehand what it cannot show (`not_stops_convert`).
-/

namespace WorldClock

/-! ### Computations that stop -/

/-- Whether a computation comes to a stop without a result. -/
def Stops {α : Type} (computation : Except Breakdown α) : Prop :=
  ∃ cause, computation = .error cause

section Stops

variable {α β : Type}

@[simp] lemma not_stops_ok (value : α) : ¬ Stops (.ok value : Except Breakdown α) := by
  rintro ⟨cause, h⟩
  cases h

@[simp] lemma stops_error (cause : Breakdown) : Stops (.error cause : Except Breakdown α) :=
  ⟨cause, rfl⟩

/-- A computation that does not stop has a result. -/
lemma ok_of_not_stops {computation : Except Breakdown α} (h : ¬ Stops computation) :
    ∃ value, computation = .ok value := by
  cases computation with
  | error cause => exact absurd (stops_error cause) h
  | ok value => exact ⟨value, rfl⟩

@[simp] lemma stops_map (computation : Except Breakdown α) (f : α → β) :
    Stops (computation.map f) ↔ Stops computation := by
  cases computation <;> simp [Except.map]

/-- Computations one after another stop if the first one stops, or the next one with its result. -/
lemma stops_bind (computation : Except Breakdown α) (next : α → Except Breakdown β) :
    Stops (computation >>= next) ↔
      Stops computation ∨ ∃ value, computation = .ok value ∧ Stops (next value) := by
  cases computation <;> simp [bind, Except.bind]

/-- A row of computations stops exactly if one of them does. -/
lemma stops_mapM_id (computations : List (Except Breakdown α)) :
    Stops (computations.mapM id) ↔ ∃ computation ∈ computations, Stops computation := by
  induction computations with
  | nil => simp [pure, Except.pure]
  | cons first rest ih =>
    rw [List.mapM_cons, stops_bind]
    cases first with
    | error cause => simp
    | ok value =>
      simp only [id_eq, not_stops_ok, false_or, Except.ok.injEq, exists_eq_left', stops_bind, ih,
        List.mem_cons, exists_eq_or_imp, pure, Except.pure, and_false, exists_false, or_false]

end Stops

/-! ### Timestamps -/

lemma stops_timestamp_iff (instant : Instant) (zone : Zone) :
    Stops (instant.timestamp zone) ↔ ¬ InRange (zone.localTime instant).second := by
  unfold Instant.timestamp
  split_ifs with h <;> simp [h]

lemma second_localTime (zone : Zone) (instant : Instant) :
    (zone.localTime instant).second = instant.seconds + zone.offsetAt instant := by
  simp [Zone.localTime, Instant.localTime]

/-- UTC shows every instant. -/
lemma not_stops_timestamp_utc (instant : Instant) : ¬ Stops (instant.timestamp Zone.utc) := by
  have hoffset : Zone.utc.offsetAt instant = 0 := rfl
  rw [stops_timestamp_iff, not_not, second_localTime, hoffset, add_zero]
  exact instant.inRange

/-! ### Conversions -/

/-- The beginning of a second. -/
def Instant.ofSecond (second : Int) (h : InRange second) : Instant := ⟨second, 0, h, by decide⟩

/-- The second of a local time is in range if its year is. -/
lemma inRange_of_year {second : Int}
    (h : Fields.YearInRange (Date.ofDayNumber (second / 86400)).year) : InRange second := by
  have hyear : (Date.ofDayNumber (second / 86400)).year = yearOfDay (second / 86400 + epochDay) :=
    rfl
  rw [hyear] at h
  have hfirst := daysBeforeYear_mono h.1
  have hlast := daysBeforeYear_mono (add_le_add_left h.2 1)
  have hle := daysBeforeYear_yearOfDay_le (second / 86400 + epochDay)
  have hlt := lt_daysBeforeYear_yearOfDay (second / 86400 + epochDay)
  simp only [daysBeforeYear, epochDay] at hfirst hlast hle hlt
  constructor
  · simp only [firstSecond]; omega
  · simp only [lastSecond]; omega

lemma inRange_of_isExpressible {instant : Instant} {zone : Zone}
    (h : instant.isExpressible zone = true) : InRange (zone.localTime instant).second := by
  simp only [Instant.isExpressible, Bool.and_eq_true, decide_eq_true_eq] at h
  rw [second_localTime]
  exact inRange_of_year ⟨h.1.1.trans' (by decide), h.1.2.trans (by decide)⟩

theorem not_stops_convert (text source target : String) {table : String → Option Zone} :
    ¬ Stops (convert text source target table) := by
  unfold convert
  split
  · simp
  · simp
  · next source target _ _ =>
    split
    · simp
    · next instant _ =>
      split_ifs with h
      · rw [stops_map, stops_timestamp_iff, not_not]
        exact inRange_of_isExpressible h
      · simp

/-! ### A zone in the east -/

/-- The zone of Tokyo, whose clocks are ahead of those of UTC. -/
def Zone.tokyo : Zone := ⟨"Asia/Tokyo", .tokyo⟩

lemma Zone.ofName_tokyo : ofName "Asia/Tokyo" = .ok tokyo := rfl

end WorldClock
