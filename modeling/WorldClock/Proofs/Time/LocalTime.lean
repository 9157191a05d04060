import WorldClock.Proofs.Time.Layout
import WorldClock.Proofs.Time.Order
import WorldClock.Proofs.Time.Timestamp
/-!
# Local times and the instants that they mean

The instants at which the clocks of a zone show a local time are none, one or two
(`Zone.means_resolve`). A text without an offset denotes the earliest of them, and is refused
exactly if there is none (`ofText_of_localTime`).
-/

namespace WorldClock

/-! ### The instants that show a local time -/

/-- The instants at which the clocks of a zone show a local time. -/
def Zone.instantsOf (zone : Zone) (time : LocalTime) : Set Instant :=
  {instant | zone.localTime instant = time}

namespace Zone

variable {zone : Zone} {time : LocalTime} {instant : Instant}

lemma localTime_eq_iff :
    zone.localTime instant = time ↔
      instant.seconds + zone.offsetAt instant = time.second ∧ instant.nanos = time.nanos := by
  constructor
  · rintro rfl
    exact ⟨(second_localTime zone instant).symm, rfl⟩
  · rintro ⟨hsecond, hnanos⟩
    rw [← LocalTime.ofSecond_second time]
    simp only [Zone.localTime, Instant.localTime, hsecond, hnanos]

/-- Clocks show a local time at an instant that a span makes of it. -/
lemma mem_instantsOf :
    instant ∈ zone.instantsOf time ↔ ∃ span ∈ zone.history.spans, span.shows time.second = true ∧
      Instant.of? (time.second - span.offset) time.nanos = some instant := by
  rw [instantsOf, Set.mem_ofPred_eq, localTime_eq_iff, Zone.offsetAt, History.exists_span_iff]
  constructor
  · rintro ⟨⟨span, hspan, hshows, hsecond⟩, hnanos⟩
    exact ⟨span, hspan, hshows, Instant.of?_eq_some_iff.2 ⟨hsecond.symm, hnanos.symm⟩⟩
  · rintro ⟨span, hspan, hshows, hof⟩
    obtain ⟨hsecond, hnanos⟩ := Instant.of?_eq_some_iff.1 hof
    exact ⟨⟨span, hspan, hshows, hsecond.symm⟩, hnanos.symm⟩

/-- Two spans that show the same local second make two instants of it. They lie near the stop of the
earlier span, and so within the range of time. -/
lemma exists_instants {a b : Span} (ha : a ∈ zone.history.spans) (hb : b ∈ zone.history.spans)
    (hashows : a.shows time.second = true) (hbshows : b.shows time.second = true)
    (hprecedes : a.Precedes b) :
    ∃ earlier later, Instant.of? (time.second - a.offset) time.nanos = some earlier ∧
      Instant.of? (time.second - b.offset) time.nanos = some later ∧
      earlier.seconds < later.seconds := by
  rw [Span.shows_iff] at hashows hbshows
  obtain ⟨-, stop, hstop, hle⟩ := hprecedes.past _ hbshows.1
  have hlt := hashows.2 stop hstop
  obtain ⟨hashort, hafar⟩ := Span.bounds_of_mem_sequence zone.history.regular ha
  obtain ⟨hbshort, -⟩ := Span.bounds_of_mem_sequence zone.history.regular hb
  obtain ⟨hlow, hhigh⟩ := hafar stop hstop
  rw [isShortOffset_iff] at hashort hbshort
  simp only [firstSecond, lastSecond, twoDays] at hlow hhigh
  have harange : InRange (time.second - a.offset) := by
    constructor
    · simp only [firstSecond]; omega
    · simp only [lastSecond]; omega
  have hbrange : InRange (time.second - b.offset) := by
    constructor
    · simp only [firstSecond]; omega
    · simp only [lastSecond]; omega
  refine ⟨⟨_, _, harange, time.nanos_lt⟩, ⟨_, _, hbrange, time.nanos_lt⟩,
    Instant.of?_eq_some_iff.2 ⟨rfl, rfl⟩, Instant.of?_eq_some_iff.2 ⟨rfl, rfl⟩, ?_⟩
  dsimp only
  omega

end Zone

/-- A resolution has just the instants of a set, in the order of time. -/
inductive Resolution.Means (instants : Set Instant) : Resolution Instant → Prop
  | none (h : instants = ∅) : Means instants .none
  | single {only : Instant} (h : instants = {only}) : Means instants (.single only)
  | ambiguous {earlier later : Instant} (hlt : earlier.seconds < later.seconds)
      (h : instants = {earlier, later}) : Means instants (.ambiguous earlier later)

namespace Resolution

variable {instants : Set Instant} {resolution : Resolution Instant}

lemma Means.isLeast (h : resolution.Means instants) {instant : Instant}
    (hearliest : resolution.earliest? = some instant) : IsLeast instants instant := by
  cases h with
  | none h => cases hearliest
  | single h =>
    cases hearliest
    subst h
    constructor
    · rfl
    · rintro _ rfl
      exact Instant.le_refl _
  | ambiguous hlt h =>
    cases hearliest
    subst h
    constructor
    · exact .inl rfl
    · rintro _ (rfl | rfl)
      · exact Instant.le_refl _
      · exact Instant.le_of_seconds_lt hlt

lemma Means.earliest?_eq_none_iff (h : resolution.Means instants) :
    resolution.earliest? = Option.none ↔ instants = ∅ := by
  cases h with
  | none h => simp [earliest?, h]
  | single h => simp [earliest?, h]
  | ambiguous hlt h => simp [earliest?, h, ← Set.nonempty_iff_ne_empty]

end Resolution

/-- Looking for a local time finds all instants at which clocks show it. -/
theorem Zone.means_resolve (zone : Zone) (time : LocalTime) :
    (zone.resolve time).Means (zone.instantsOf time) := by
  have hfinds := zone.history.finds_resolve time.second
  rw [Zone.resolve]
  generalize zone.history.resolve time.second = found at hfinds
  cases hfinds with
  | none hnone =>
    apply Resolution.Means.none
    apply Set.eq_empty_of_forall_notMem
    intro instant hinstant
    obtain ⟨span, hspan, hshows, -⟩ := mem_instantsOf.1 hinstant
    exact hnone span hspan hshows
  | @single span hmem hshows honly =>
    have hiff : ∀ instant, instant ∈ zone.instantsOf time ↔
        Instant.of? (time.second - span.offset) time.nanos = some instant := by
      intro instant
      rw [mem_instantsOf]
      constructor
      · rintro ⟨other, hother, hothershows, hof⟩
        rwa [honly other hother hothershows] at hof
      · exact fun hof => ⟨span, hmem, hshows, hof⟩
    cases hof : Instant.of? (time.second - span.offset) time.nanos with
    | none =>
      simp only [Resolution.andThen, hof]
      apply Resolution.Means.none
      apply Set.eq_empty_of_forall_notMem
      intro instant hinstant
      cases hof.symm.trans ((hiff instant).1 hinstant)
    | some only =>
      simp only [Resolution.andThen, hof]
      apply Resolution.Means.single
      ext instant
      rw [hiff, hof, Option.some.injEq, Set.mem_singleton_iff, eq_comm]
  | @ambiguous a b ha hb hashows hbshows hprecedes honly =>
    obtain ⟨earlier, later, hearlier, hlater, hlt⟩ :=
      exists_instants ha hb hashows hbshows hprecedes
    simp only [Resolution.andThen, hearlier, hlater]
    apply Resolution.Means.ambiguous hlt
    ext instant
    rw [mem_instantsOf, Set.mem_insert_iff, Set.mem_singleton_iff]
    constructor
    · rintro ⟨other, hother, hothershows, hof⟩
      rcases honly other hother hothershows with rfl | rfl
      · exact .inl (Option.some.inj (hof.symm.trans hearlier))
      · exact .inr (Option.some.inj (hof.symm.trans hlater))
    · rintro (rfl | rfl)
      · exact ⟨a, ha, hashows, hearlier⟩
      · exact ⟨b, hb, hbshows, hlater⟩

/-! ### Reading a local time -/

/-- A local time that can be written lies within the range of time. -/
lemma inRange_of_localTime? {fields : Fields} {time : LocalTime}
    (h : fields.localTime? = some time) : InRange time.second := by
  obtain ⟨date, hdate, htime⟩ := Option.bind_eq_some_iff.1 h
  obtain ⟨hclock, htime⟩ := Option.dite_none_right_eq_some.1 htime
  have hyear : date.year = fields.year := by
    unfold Date.ofFields? at hdate
    split_ifs at hdate
    cases hdate
    rfl
  have hday : time.second / 86400 = date.dayNumber := by
    have hlt := time.secondOfDay_lt
    cases htime
    simp only [LocalTime.second]
    dsimp only at hlt
    omega
  apply inRange_of_year
  rw [hday, Date.ofDayNumber_dayNumber, hyear]
  exact hclock.1

/-- A text without an offset denotes the earliest instant at which the clocks of the zone show its
local time, and is refused exactly if there is none. The timestamp of the instant shows the same
local time again. -/
theorem ofText_of_localTime (zone : Zone) {text : String} {layout : Layout} {time : LocalTime}
    (hlayout : layout ∈ Layout.accepted)
    (htime : layout.localTime? (Text.trimmed text.toList) = some time)
    (hstamp : Instant.ofTimestamp? (Text.trimmed text.toList) = none) :
    ((zone.instantsOf time).Nonempty → ∃ instant, Instant.ofText text zone = .ok instant ∧
        IsLeast (zone.instantsOf time) instant ∧
        instant.timestamp zone =
          .ok (String.ofList (time.text ++ offsetText (zone.offsetAt instant)))) ∧
      (Instant.ofText text zone = .error (.nonexistentLocalTime (Text.trim text) zone.name) ↔
        zone.instantsOf time = ∅) := by
  have hfirst := Layout.firstLocalTime?_eq_some_iff.2 ⟨layout, hlayout, htime⟩
  have hmeans := zone.means_resolve time
  cases hearliest : (zone.resolve time).earliest? with
  | none =>
    have hempty := hmeans.earliest?_eq_none_iff.1 hearliest
    have htext : Instant.ofText text zone =
        .error (.nonexistentLocalTime (Text.trim text) zone.name) := by
      simp only [Instant.ofText, hstamp, hfirst, hearliest]
    exact ⟨fun hnonempty => absurd hempty hnonempty.ne_empty, fun _ => hempty, fun _ => htext⟩
  | some instant =>
    have hleast := hmeans.isLeast hearliest
    have hshown : zone.localTime instant = time := hleast.1
    have htext : Instant.ofText text zone = .ok instant := by
      simp only [Instant.ofText, hstamp, hfirst, hearliest]
    obtain ⟨fields, -, hfields⟩ := Layout.localTime?_eq_some_iff.1 htime
    refine ⟨fun _ => ⟨instant, htext, hleast, ?_⟩, fun hrefused => ?_, fun hempty => ?_⟩
    · rw [Instant.timestamp, hshown, if_pos (inRange_of_localTime? hfields)]
    · cases htext.symm.trans hrefused
    · exact absurd hempty (Set.nonempty_of_mem hleast.1).ne_empty

/-- At the end of summer time New York shows half past one twice, and the first time is meant. At
its start half past two is left out. -/
theorem ofText_of_localTime_new_york :
    (∃ time instant, (Layout.date ++ [Piece.blanks] ++ Layout.minutes).localTime?
          "2025-11-02 01:30".toList = some time ∧
        Instant.ofText "2025-11-02 01:30" ⟨"America/New_York", .newYork⟩ = .ok instant ∧
        IsLeast (Zone.instantsOf ⟨"America/New_York", .newYork⟩ time) instant ∧
        instant.timestamp ⟨"America/New_York", .newYork⟩ = .ok "2025-11-02T01:30:00-04:00") ∧
      ∃ time, (Layout.date ++ [Piece.blanks] ++ Layout.minutes).localTime?
          "2025-03-09 02:30".toList = some time ∧
        Zone.instantsOf ⟨"America/New_York", .newYork⟩ time = ∅ := by
  have hread : ∀ text ∈ ["2025-11-02 01:30", "2025-03-09 02:30"],
      Text.trimmed text.toList = text.toList ∧
        ((Layout.date ++ [Piece.blanks] ++ Layout.minutes).localTime? text.toList).isSome ∧
        Instant.ofTimestamp? (Text.trimmed text.toList) = none := by decide +kernel
  constructor
  · obtain ⟨htrimmed, hsome, hstamp⟩ := hread "2025-11-02 01:30" (by decide)
    obtain ⟨time, htime⟩ := Option.isSome_iff_exists.1 hsome
    obtain ⟨hfound, hrefused⟩ := ofText_of_localTime ⟨"America/New_York", .newYork⟩
      (by decide) (htrimmed.symm ▸ htime) hstamp
    have hok : Instant.ofText "2025-11-02 01:30" ⟨"America/New_York", .newYork⟩ =
        .ok ⟨1762061400, 0, by decide, by decide⟩ := by decide +kernel
    have hnonempty : (Zone.instantsOf ⟨"America/New_York", .newYork⟩ time).Nonempty :=
      Set.nonempty_iff_ne_empty.2 fun hempty => by cases hok.symm.trans (hrefused.2 hempty)
    obtain ⟨instant, hinstant, hleast, -⟩ := hfound hnonempty
    cases hok.symm.trans hinstant
    exact ⟨time, _, htime, hok, hleast, by decide +kernel⟩
  · obtain ⟨htrimmed, hsome, hstamp⟩ := hread "2025-03-09 02:30" (by decide)
    obtain ⟨time, htime⟩ := Option.isSome_iff_exists.1 hsome
    refine ⟨time, htime, ?_⟩
    exact (ofText_of_localTime _ (by decide) (htrimmed.symm ▸ htime) hstamp).2.1
      (by decide +kernel)

end WorldClock
