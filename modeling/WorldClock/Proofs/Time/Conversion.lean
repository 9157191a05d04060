import WorldClock.Proofs.Time.Timestamp
/-!
# What conversions keep

A conversion gives a timestamp of the second that its time denotes (`timestamp_of_convert`). So it
makes no difference whether a time is converted at once or by way of another zone
(`convert_convert`), with one exception: a leap second that is not the second 60 of a minute of UTC
is written as the second that follows, and there the offset may be another one already.
-/

namespace WorldClock

/-! ### The second that is shown -/

/-- The text of a local time tells nothing but the numbers that are shown. -/
lemma text_eq_of_fields_eq {a b : LocalTime} (h : a.fields = b.fields) : a.text = b.text := by
  simp only [LocalTime.fields, Fields.mk.injEq] at h
  obtain ⟨hyear, hmonth, hday, hhour, hminute, hsecond, -⟩ := h
  simp only [LocalTime.text, hyear, hmonth, hday, hhour, hminute, hsecond]

namespace Instant

variable {instant : Instant} {zone : Zone}

/-- By whole minutes from UTC, clocks show the same at an instant and at the second that is
shown. -/
lemma fields_wholeSecond (instant : Instant) {offset : Int} (hminutes : offset % 60 = 0) :
    (instant.wholeSecond.localTime offset).fields = (instant.localTime offset).fields := by
  by_cases hcarries : instant.Carries
  · obtain ⟨hseconds, hnanos⟩ := wholeSecond_of_carries hcarries
    have hlt := instant.nanos_lt
    obtain ⟨hleap, hsecond⟩ := hcarries
    have hday : (instant.seconds + 1 + offset) / 86400 = (instant.seconds + offset) / 86400 := by
      omega
    simp only [LocalTime.fields, LocalTime.hour, LocalTime.minute, LocalTime.shownSecond,
      Instant.localTime, LocalTime.ofSecond, hseconds, hnanos, hday, Fields.mk.injEq, true_and,
      and_true]
    omega
  · obtain ⟨hseconds, hnanos⟩ := wholeSecond_of_not_carries hcarries
    simp only [LocalTime.fields, LocalTime.hour, LocalTime.minute, LocalTime.shownSecond,
      Instant.localTime, LocalTime.ofSecond, hseconds, hnanos, Fields.mk.injEq, true_and, and_true]
    omega

lemma offsetAt_wholeSecond_of_not_carries (h : ¬ instant.Carries) :
    zone.offsetAt instant.wholeSecond = zone.offsetAt instant := by
  rw [Zone.offsetAt, (wholeSecond_of_not_carries h).1]
  rfl

/-- An offset of whole minutes is still in force at the second that is shown, even if that is the
next second. -/
lemma offsetAt_wholeSecond (hminutes : zone.offsetAt instant % 60 = 0) :
    zone.offsetAt instant.wholeSecond = zone.offsetAt instant := by
  by_cases hcarries : instant.Carries
  · have hsecond := hcarries.2
    rw [Zone.offsetAt, (wholeSecond_of_carries hcarries).1]
    exact zone.history.offsetAt_succ hminutes (by omega)
  · exact offsetAt_wholeSecond_of_not_carries hcarries

/-- A zone that shows an instant in full shows the second of the instant in the same way. -/
lemma stamp_wholeSecond (hminutes : zone.offsetAt instant % 60 = 0) :
    instant.wholeSecond.isExpressible zone = instant.isExpressible zone ∧
      instant.wholeSecond.stamp zone = instant.stamp zone := by
  have hoffset : zone.offsetAt instant.wholeSecond = zone.offsetAt instant :=
    offsetAt_wholeSecond hminutes
  have hfields : (zone.localTime instant.wholeSecond).fields = (zone.localTime instant).fields := by
    rw [Zone.localTime, Zone.localTime, hoffset]
    exact fields_wholeSecond instant hminutes
  have hyear : (zone.localTime instant.wholeSecond).date.year =
      (zone.localTime instant).date.year := congrArg Fields.year hfields
  constructor
  · rw [isExpressible, isExpressible, hoffset, hyear]
  · rw [stamp, stamp, hoffset, text_eq_of_fields_eq hfields]

/-- What a conversion to a zone makes of an instant that a text denotes. -/
def converted (instant : Instant) (text : String) (zone : Zone) : Except TimeError String :=
  if instant.isExpressible zone then .ok (instant.stamp zone)
  else .error (.unrepresentable (Text.trim text) zone.name)

end Instant

/-! ### Conversions -/

section convert

variable {table : ZoneTable} {text source target written : String}

lemma convert_eq_converted {home away : Zone} {instant : Instant}
    (hsource : Zone.ofName source table = .ok home) (htarget : Zone.ofName target table = .ok away)
    (htext : Instant.ofText text home = .ok instant) :
    convert text source target table = .ok (instant.converted text away) := by
  simp only [convert, hsource, htarget, htext, Instant.converted]
  split_ifs with h
  · rw [Instant.timestamp_of_isExpressible h]
    rfl
  · rfl

/-- All names of UTC name it, whatever is in the table. -/
lemma ofName_eq_utc {name : String} (h : Text.trim name = "" ∨
    Text.sameLetters (Text.trim name) "utc" = true ∨ Text.trim name = "Z") :
    Zone.ofName name table = .ok Zone.utc := by
  simp only [Zone.ofName, h, if_true]

lemma ofName_utc : Zone.ofName "utc" = .ok Zone.utc :=
  ofName_eq_utc (by decide +kernel)

/-- A conversion that succeeds has found both zones and an instant that the target zone shows in
full. -/
lemma exists_of_convert (h : convert text source target table = .ok (.ok written)) :
    ∃ home away instant, Zone.ofName source table = .ok home ∧
      Zone.ofName target table = .ok away ∧ Instant.ofText text home = .ok instant ∧
      instant.isExpressible away = true ∧ written = instant.stamp away := by
  cases hsource : Zone.ofName source table with
  | error cause => simp [convert, hsource] at h
  | ok home =>
    cases htarget : Zone.ofName target table with
    | error cause => simp [convert, hsource, htarget] at h
    | ok away =>
      cases htext : Instant.ofText text home with
      | error cause => simp [convert, hsource, htarget, htext] at h
      | ok instant =>
        rw [convert_eq_converted hsource htarget htext, Except.ok.injEq, Instant.converted] at h
        split_ifs at h with hexpressible
        exact ⟨home, away, instant, rfl, rfl, htext, hexpressible, (Except.ok.inj h).symm⟩

/-- A conversion never breaks down. From zones that are known and a time that is accepted it gives a
timestamp if clocks in the target zone show a year of four digits and an offset of whole minutes,
and otherwise it is refused as one that cannot be represented. So it never comes to write a local
time beyond the range of the calendar. -/
theorem convert_outcome (table : String → Option Zone) (text source target : String) :
    (∃ outcome, convert text source target table = .ok outcome) ∧
      ∀ home away instant, Zone.ofName source table = .ok home →
        Zone.ofName target table = .ok away → Instant.ofText text home = .ok instant →
        ((∃ written, convert text source target table = .ok (.ok written)) ↔
            (0 ≤ (away.localTime instant).date.year ∧ (away.localTime instant).date.year ≤ 9999) ∧
              away.offsetAt instant % 60 = 0) ∧
          (convert text source target table =
              .ok (.error (.unrepresentable (Text.trim text) away.name)) ↔
            ¬ ((0 ≤ (away.localTime instant).date.year ∧
                (away.localTime instant).date.year ≤ 9999) ∧
              away.offsetAt instant % 60 = 0)) ∧
          (Stops (instant.timestamp away) →
            convert text source target table =
              .ok (.error (.unrepresentable (Text.trim text) away.name))) := by
  refine ⟨ok_of_not_stops (not_stops_convert text source target), ?_⟩
  intro home away instant hsource htarget htext
  rw [convert_eq_converted hsource htarget htext, ← Instant.isExpressible_iff, Instant.converted]
  by_cases hshown : instant.isExpressible away = true
  · have hrange := inRange_of_isExpressible hshown
    have hwritten : ¬ Stops (instant.timestamp away) := by
      rwa [stops_timestamp_iff, not_not]
    simp [hshown, hwritten]
  · simp [hshown]

/-- The last second that UTC shows is beyond the range of the calendar in Tokyo. -/
theorem convert_outcome_tokyo :
    convert "+262142-12-31T23:59:59" "utc" "Asia/Tokyo" =
        .ok (.error (.unrepresentable "+262142-12-31T23:59:59" "Asia/Tokyo")) ∧
      ∃ instant, Instant.ofText "+262142-12-31T23:59:59" Zone.utc = .ok instant ∧
        Stops (instant.timestamp .tokyo) := by
  have htext : Instant.ofText "+262142-12-31T23:59:59" Zone.utc =
      .ok ⟨lastSecond, 0, by decide, by decide⟩ := by decide +kernel
  have hstops : Stops ((⟨lastSecond, 0, by decide, by decide⟩ : Instant).timestamp .tokyo) := by
    rw [stops_timestamp_iff]
    decide +kernel
  have htrim : Text.trim "+262142-12-31T23:59:59" = "+262142-12-31T23:59:59" := by
    decide +kernel
  obtain ⟨-, -, hrefused⟩ := (convert_outcome Zone.find? "+262142-12-31T23:59:59" "utc"
    "Asia/Tokyo").2 _ _ _ ofName_utc Zone.ofName_tokyo htext
  exact ⟨htrim ▸ hrefused hstops, _, htext, hstops⟩

/-- A conversion gives a timestamp with a year of four digits. In whatever zone it is read again, it
denotes the second that the given time denotes. Its numbers are those that clocks in the target zone
show then, and its offset is the one in force there. -/
theorem timestamp_of_convert (h : convert text source target table = .ok (.ok written)) :
    Fits stampPattern.toList written.toList ∧
      ∃ home away instant again, Zone.ofName source table = .ok home ∧
        Zone.ofName target table = .ok away ∧ Instant.ofText text home = .ok instant ∧
        (∀ zone, Instant.ofText written zone = .ok again) ∧
        again.shownSecond = instant.shownSecond ∧
        ∀ moment, moment = instant ∨ moment = again →
          ∃ rest, readStampFields written.toList = some ((away.localTime moment).fields, rest) ∧
            readOffset rest = some (away.offsetAt moment, []) := by
  obtain ⟨home, away, instant, hsource, htarget, htext, hexpressible, rfl⟩ := exists_of_convert h
  refine ⟨Instant.fits_stamp hexpressible, home, away, instant, instant.wholeSecond, hsource,
    htarget, htext, Instant.ofText_stamp hexpressible, instant.shownSecond_wholeSecond, ?_⟩
  rintro moment (rfl | rfl)
  · exact Instant.read_stamp hexpressible
  · have hminutes := (Instant.isExpressible_iff.1 hexpressible).2
    obtain ⟨hsame, hstamp⟩ := Instant.stamp_wholeSecond hminutes
    rw [← hstamp]
    exact Instant.read_stamp (hsame.trans hexpressible)

/-- The leap second before Kathmandu had an offset of whole minutes, which UTC shows in the middle
of a minute. -/
theorem timestamp_of_convert_kathmandu :
    convert "1919-12-31 23:59:60" "Asia/Kathmandu" "UTC" =
        .ok (.ok "1919-12-31T18:18:44+00:00") ∧
      Fits stampPattern.toList "1919-12-31T18:18:44+00:00".toList :=
  have h : convert "1919-12-31 23:59:60" "Asia/Kathmandu" "UTC" =
      .ok (.ok "1919-12-31T18:18:44+00:00") := by decide +kernel
  ⟨h, (timestamp_of_convert h).1⟩

/-! ### Conversions by way of another zone -/

/-- Two conversions end alike: both with the same text, or both because their zone does not show the
time in full. -/
def EndAlike (a b : Except Breakdown (Except TimeError String)) : Prop :=
  (∃ result, a = .ok (.ok result) ∧ b = .ok (.ok result)) ∨
    ∃ zone time time', a = .ok (.error (.unrepresentable time zone)) ∧
      b = .ok (.error (.unrepresentable time' zone))

/-- It makes no difference whether a time is converted at once or what it was converted to before is
converted again. The one exception is a leap second that follows a second other than the last one of
a minute, at the end of an offset with seconds, if the next offset has none: only the way by another
zone leads past that moment. -/
theorem convert_convert {other final : String} {zone last : Zone}
    (h : convert text source target table = .ok (.ok written))
    (hother : Zone.ofName other table = .ok zone) (hfinal : Zone.ofName final table = .ok last) :
    EndAlike (convert written other final table) (convert text source final table) ∨
      ∃ home instant result, Zone.ofName source table = .ok home ∧
        Instant.ofText text home = .ok instant ∧ instant.Carries ∧
        last.history.offsetAt instant.seconds % 60 ≠ 0 ∧
        last.history.offsetAt (instant.seconds + 1) % 60 = 0 ∧
        convert written other final table = .ok (.ok result) ∧
        convert text source final table =
          .ok (.error (.unrepresentable (Text.trim text) last.name)) := by
  obtain ⟨home, away, instant, hsource, -, htext, hexpressible, rfl⟩ := exists_of_convert h
  have hagain := Instant.ofText_stamp hexpressible zone
  rw [convert_eq_converted hother hfinal hagain, convert_eq_converted hsource hfinal htext]
  have hrefused : ∀ {moment : Instant} {time : String}, ¬ last.offsetAt moment % 60 = 0 →
      moment.converted time last = .error (.unrepresentable (Text.trim time) last.name) :=
    fun hseconds => if_neg fun hshown => hseconds (Instant.isExpressible_iff.1 hshown).2
  by_cases hminutes : last.offsetAt instant % 60 = 0
  · -- The offset still holds at the second that is shown, so both ways show the same.
    obtain ⟨hsame, hstamp⟩ := Instant.stamp_wholeSecond hminutes
    left
    rw [Instant.converted, Instant.converted, hsame, hstamp]
    split_ifs
    · exact .inl ⟨_, rfl, rfl⟩
    · exact .inr ⟨_, _, _, rfl, rfl⟩
  · rw [hrefused hminutes]
    by_cases hshown : instant.wholeSecond.isExpressible last = true
    · have hwhole := (Instant.isExpressible_iff.1 hshown).2
      have hcarries : instant.Carries := by
        by_contra hcarries
        rw [Instant.offsetAt_wholeSecond_of_not_carries hcarries] at hwhole
        exact hminutes hwhole
      rw [Zone.offsetAt, (Instant.wholeSecond_of_carries hcarries).1] at hwhole
      exact .inr ⟨home, instant, _, hsource, htext, hcarries, hminutes, hwhole,
        congrArg Except.ok (if_pos hshown), rfl⟩
    · exact .inl (.inr ⟨_, _, _, congrArg Except.ok (if_neg hshown), rfl⟩)

/-- A leap second in New York is the same in Tokyo, by way of Kolkata or not. -/
theorem convert_convert_tokyo :
    convert "2016-12-31 18:59:60" "America/New_York" "Asia/Kolkata" =
        .ok (.ok "2017-01-01T05:29:60+05:30") ∧
      EndAlike (convert "2017-01-01T05:29:60+05:30" "utc" "Asia/Tokyo")
        (convert "2016-12-31 18:59:60" "America/New_York" "Asia/Tokyo") := by
  have hvia : convert "2016-12-31 18:59:60" "America/New_York" "Asia/Kolkata" =
      .ok (.ok "2017-01-01T05:29:60+05:30") := by decide +kernel
  refine ⟨hvia, (convert_convert hvia ofName_utc Zone.ofName_tokyo).resolve_right ?_⟩
  rintro ⟨home, instant, result, -, -, -, -, -, -, hrefused⟩
  have htext : convert "2016-12-31 18:59:60" "America/New_York" "Asia/Tokyo" =
      .ok (.ok "2017-01-01T08:59:60+09:00") := by decide +kernel
  rw [htext] at hrefused
  cases hrefused

/-- The leap second at the end of local mean time in Kathmandu cannot be written there, but the
second that UTC shows instead can. -/
theorem not_endAlike_kathmandu :
    convert "1919-12-31 23:59:60" "Asia/Kathmandu" "utc" =
        .ok (.ok "1919-12-31T18:18:44+00:00") ∧
      Zone.ofName "utc" = .ok Zone.utc ∧
      Zone.ofName "Asia/Kathmandu" = .ok ⟨"Asia/Kathmandu", .kathmandu⟩ ∧
      ¬ EndAlike (convert "1919-12-31T18:18:44+00:00" "utc" "Asia/Kathmandu")
        (convert "1919-12-31 23:59:60" "Asia/Kathmandu" "Asia/Kathmandu") := by
  have hvia : convert "1919-12-31T18:18:44+00:00" "utc" "Asia/Kathmandu" =
      .ok (.ok "1919-12-31T23:48:44+05:30") := by decide +kernel
  have honce : convert "1919-12-31 23:59:60" "Asia/Kathmandu" "Asia/Kathmandu" =
      .ok (.error (.unrepresentable "1919-12-31 23:59:60" "Asia/Kathmandu")) := by decide +kernel
  refine ⟨by decide +kernel, ofName_utc, rfl, ?_⟩
  rw [hvia, honce]
  simp [EndAlike]

end convert

end WorldClock
