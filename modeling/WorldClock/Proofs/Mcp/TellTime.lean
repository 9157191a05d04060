import WorldClock.Proofs.Mcp.Replies
import WorldClock.Proofs.Outcome
import WorldClock.Proofs.Time.Conversion
import WorldClock.Proofs.Time.Spelling
/-!
# The time that is told

The current time is told by a tool and by the document of world times, and what the tool tells for
UTC can be converted to any other zone. The document tells the same as the tool, and a conversion
gives what the tool tells for that zone (`tellTime_agrees`). There is one exception, for zones that
are by a part of a minute from UTC: a conversion takes a leap second in the middle of a minute of
UTC for the next second, and the tool does not (`timestamp_of_convert_stamp`).
-/

namespace WorldClock

open Text

/-! ### Signs in a local time -/

lemma Figure.IsSpelled.mem_text {figure : Figure} (h : figure.IsSpelled) {c : Char}
    (hc : c ∈ figure.text) : isBlank c = true ∨ c ∈ figure.sign ∨ c.isDigit = true := by
  rw [text, List.mem_append, List.mem_append, Option.mem_toList] at hc
  rcases hc with hgap | hsign | hdigit
  · exact .inl (h.gap c hgap)
  · exact .inr (.inl hsign)
  · exact .inr (.inr (h.digits.isDigit c hdigit))

lemma Field.Takes.plus_notMem {field : Field} {figure : Figure} (h : field.Takes figure)
    (hfield : field ≠ year) : '+' ∉ figure.text := by
  intro hmem
  rcases h.mem_text hmem with hblank | hsign | hdigit
  · exact absurd hblank (by decide)
  · rw [h.unsigned hfield] at hsign
    cases hsign
  · exact absurd hdigit (by decide)

lemma SpelledClock.IsLoose.plus_notMem {clock : SpelledClock} (h : clock.IsLoose) :
    '+' ∉ clock.text := by
  have hfraction : '+' ∉ fractionText clock.fraction := by
    unfold fractionText
    split_ifs
    · simp
    · rw [List.mem_cons, not_or]
      exact ⟨by decide, fun hmem => absurd (h.fraction _ hmem) (by decide)⟩
  have hsecond : '+' ∉ clock.secondText := by
    unfold secondText
    split
    · simp
    · next second hsome =>
      simp [(h.second second hsome).plus_notMem (by decide), hfraction]
  simp [text, h.hour.plus_notMem (by decide), h.minute.plus_notMem (by decide), hsecond]

namespace SpelledTime

variable {time : SpelledTime}

/-- The text of a local time behind the year. -/
def tailText (time : SpelledTime) : List Char :=
  '-' :: (time.date.month.text ++ '-' :: (time.date.day.text ++ time.restText))

lemma text_eq_append (time : SpelledTime) : time.text = time.date.year.text ++ time.tailText := by
  simp [text, SpelledDate.text, tailText]

lemma IsLoose.plus_notMem_tailText (h : time.IsLoose) : '+' ∉ time.tailText := by
  have hrest : '+' ∉ time.restText := by
    unfold restText
    split_ifs
    · simp [h.clock.plus_notMem]
    · exact h.clock.plus_notMem
  simp [tailText, h.date.month.plus_notMem (by decide), h.date.day.plus_notMem (by decide), hrest]

/-- A plus sign stands only before the year, and so before any letter. -/
lemma IsLoose.text_ne (h : time.IsLoose) {front back : List Char} (hfront : 'T' ∈ front) :
    front ++ '+' :: back ≠ time.text := by
  rw [text_eq_append]
  intro htext
  rcases List.append_eq_append_iff.1 htext with ⟨more, hyear, -⟩ | ⟨more, -, htail⟩
  · have hmem : 'T' ∈ time.date.year.text := hyear ▸ List.mem_append_left _ hfront
    rcases h.date.year.mem_text hmem with hblank | hsign | hdigit
    · exact absurd hblank (by decide)
    · exact absurd (h.date.year.sign _ hsign) (by decide)
    · exact absurd hdigit (by decide)
  · exact h.plus_notMem_tailText (htail ▸ List.mem_append_right _ (.head _))

end SpelledTime

/-! ### What UTC shows is read again -/

/-- A text that begins with a sign is no timestamp. -/
lemma ofTimestamp?_sign {sign : Char} (hsign : sign = '+' ∨ sign = '-') (cs : List Char) :
    Instant.ofTimestamp? (sign :: cs) = none := by
  have hyear : exactDigits 4 (sign :: cs) = none := by
    refine if_neg fun h => ?_
    rw [List.take_succ_cons, List.all_cons, Figure.isDigit_of_isSign hsign] at h
    cases h.2
  rw [Instant.ofTimestamp?, readStampFields, hyear]
  rfl

lemma exists_yearText_eq_cons {year : Int} (h : ¬ (0 ≤ year ∧ year ≤ 9999)) :
    ∃ sign digits, (sign = '+' ∨ sign = '-') ∧ yearText year = sign :: digits := by
  rw [yearText, if_neg h]
  refine ⟨_, _, ?_, rfl⟩
  split_ifs <;> simp

namespace Instant

variable {now instant : Instant} {zone source : Zone} {written : String}

lemma stamp_of_timestamp (h : now.timestamp zone = .ok written) : written = now.stamp zone := by
  unfold timestamp at h
  split_ifs at h
  exact (Except.ok.inj h).symm

/-- What UTC shows in a year with a sign is not read as a time. -/
lemma ofText_stamp_ne_ok (h : now.isExpressible Zone.utc = false) :
    Instant.ofText (now.stamp Zone.utc) source ≠ .ok instant := by
  have hoffset : Zone.utc.offsetAt now = 0 := rfl
  have hyear : ¬ (0 ≤ (Zone.utc.localTime now).date.year ∧
      (Zone.utc.localTime now).date.year ≤ 9999) := by
    intro hyear
    have hshown := isExpressible_iff.2 ⟨hyear, by rw [hoffset]; rfl⟩
    exact Bool.false_ne_true (h.symm.trans hshown)
  obtain ⟨sign, digits, hsign, hdigits⟩ := exists_yearText_eq_cons hyear
  have htext : (now.stamp Zone.utc).toList =
      (Zone.utc.localTime now).text ++ '+' :: "00:00".toList := by
    rw [toList_stamp, hoffset]
    rfl
  have hletter : 'T' ∈ (Zone.utc.localTime now).text := by simp [LocalTime.text]
  obtain ⟨more, hmore⟩ : ∃ more, (Zone.utc.localTime now).text = sign :: more := by
    rw [LocalTime.text, hdigits]
    exact ⟨_, rfl⟩
  have htrimmed : trimmed (now.stamp Zone.utc).toList = (now.stamp Zone.utc).toList := by
    rw [trimmed_eq_self_iff, htext]
    constructor
    · rw [hmore]
      rintro _ ⟨⟩
      exact Figure.isBlank_of_isSign hsign
    · rw [List.getLast?_append_of_ne_nil _ (List.cons_ne_nil _ _)]
      rintro _ ⟨⟩
      decide
  have hstamp : Instant.ofTimestamp? (trimmed (now.stamp Zone.utc).toList) = none := by
    rw [htrimmed, htext, hmore]
    exact ofTimestamp?_sign hsign _
  have hnone : Layout.firstLocalTime? Layout.accepted (trimmed (now.stamp Zone.utc).toList) =
      none := by
    rw [Option.eq_none_iff_forall_ne_some]
    intro shown hshown
    obtain ⟨time, htime, hloose, -⟩ := SpelledTime.exists_firstLocalTime?_iff.1 ⟨shown, hshown⟩
    exact hloose.text_ne hletter (htext.symm.trans (htrimmed.symm.trans htime))
  simp only [Instant.ofText, hstamp, hnone, ne_eq, reduceCtorEq, not_false_eq_true]

/-- The second that clocks show can be told from the text alone, as all that stands behind it has a
fixed width. -/
lemma shownSecond_of_stamp_eq {other : Instant} (h : instant.stamp zone = other.stamp zone) :
    (zone.localTime instant).shownSecond = (zone.localTime other).shownSecond := by
  have htext := congrArg String.toList h
  rw [toList_stamp, toList_stamp] at htext
  obtain ⟨htime, -⟩ := List.append_inj' htext
    ((length_offsetText (isShortOffset_offsetAt instant zone)).trans
      (length_offsetText (isShortOffset_offsetAt other zone)).symm)
  have hlt (time : LocalTime) : time.shownSecond < 10 ^ 2 := time.numbers_lt.2.2.2.2
  rw [LocalTime.text, LocalTime.text] at htime
  obtain ⟨-, hsecond⟩ := List.append_inj' htime
    (by rw [List.length_cons, List.length_cons, length_padded Nat.two_pos (hlt _),
      length_padded Nat.two_pos (hlt _)])
  have hnumber := congrArg numberOf (List.cons.inj hsecond).2
  rwa [numberOf_padded, numberOf_padded] at hnumber

/-- In the middle of a minute of UTC, and by a part of a minute from it, clocks inside a leap second
do not show the second after it. -/
lemma stamp_wholeSecond_ne (hcarries : instant.Carries) (hseconds : zone.offsetAt instant % 60 ≠ 0)
    (hwhole : zone.offsetAt instant.wholeSecond % 60 = 0) :
    instant.wholeSecond.stamp zone ≠ instant.stamp zone := by
  intro hstamp
  have hshown := shownSecond_of_stamp_eq hstamp
  obtain ⟨hsecond, hnanos⟩ := wholeSecond_of_carries hcarries
  have hlt := instant.nanos_lt
  obtain ⟨hleap, hlast⟩ := hcarries
  simp only [Zone.localTime, Instant.localTime, LocalTime.ofSecond, LocalTime.shownSecond, hsecond,
    hnanos] at hshown
  omega

end Instant

/-- What UTC shows is converted to what the target zone shows at the same instant. The one exception
is a leap second that follows a second other than the last one of a minute, at an offset with
seconds: there the next second is shown instead. -/
theorem timestamp_of_convert_stamp {now : Instant} {utc source target written : String}
    {table : ZoneTable} (hutc : now.timestamp Zone.utc = .ok utc)
    (h : convert utc source target table = .ok (.ok written)) :
    ∃ zone, Zone.ofName target table = .ok zone ∧
      (now.timestamp zone = .ok written ↔ ¬ (now.Carries ∧ zone.offsetAt now % 60 ≠ 0)) := by
  obtain ⟨home, away, instant, -, htarget, htext, hexpressible, rfl⟩ := exists_of_convert h
  refine ⟨away, htarget, ?_⟩
  rw [Instant.stamp_of_timestamp hutc] at htext
  cases hshown : now.isExpressible Zone.utc with
  | false => exact absurd htext (Instant.ofText_stamp_ne_ok hshown)
  | true =>
    rw [Instant.ofText_stamp hshown home] at htext
    cases htext
    have hwhole := (Instant.isExpressible_iff.1 hexpressible).2
    by_cases hminutes : away.offsetAt now % 60 = 0
    · obtain ⟨hsame, hstamp⟩ := Instant.stamp_wholeSecond hminutes
      rw [hstamp]
      exact iff_of_true (Instant.timestamp_of_isExpressible (hsame.symm.trans hexpressible))
        fun hexception => hexception.2 hminutes
    · have hcarries : now.Carries := by
        by_contra hcarries
        rw [Instant.offsetAt_wholeSecond_of_not_carries hcarries] at hwhole
        exact hminutes hwhole
      refine iff_of_false (fun htold => ?_) (not_not_intro ⟨hcarries, hminutes⟩)
      exact Instant.stamp_wholeSecond_ne hcarries hminutes hwhole
        (Instant.stamp_of_timestamp htold)

/-! ### The tool -/

lemma Tool.tellTime_eq_ok_iff (name : Option String) {zone : Zone} {table : ZoneTable}
    (hzone : Zone.ofName (name.getD "") table = .ok zone) (now : Instant) (written : String) :
    tellTime ⟨name⟩ now table = .ok (.ok written) ↔ now.timestamp zone = .ok written := by
  simp [tellTime, hzone, map_eq_ok_iff, ToolResult.ok]

/-! ### The document of world times -/

/-- What is made of some items, where there is anything to make of them, is related to other things
one by one exactly if that is so for the items of which something is made. -/
lemma forall₂_filterMap_iff {α β γ : Type} {make : α → Option β} {related : β → γ → Prop}
    {items : List α} {others : List γ} :
    List.Forall₂ related (items.filterMap make) others ↔
      List.Forall₂ (fun item other => ∃ made, make item = some made ∧ related made other)
        (items.filter fun item => (make item).isSome) others := by
  induction items generalizing others with
  | nil => simp
  | cons item items ih =>
    cases h : make item with
    | none => simp [h, ih]
    | some made => simp [h, ih, List.forall₂_cons_left_iff]

namespace Resource

/-- The cities whose zones are in a table. -/
def citiesIn (table : ZoneTable) : List (String × String) :=
  cities.filter fun city => (Zone.ofName city.2 table).toOption.isSome

variable {table : ZoneTable} {now : Instant} {entries : List Json} {metrics : Metrics}
  {content : Json}

/-- Every city whose zone is in the table has an entry with the time that the zone shows. -/
lemma forall₂_cityEntries (h : cityEntries now table = .ok entries) :
    List.Forall₂ (fun city entry => ∃ zone time, Zone.ofName city.2 table = .ok zone ∧
      now.timestamp zone = .ok time ∧
      entry = .obj [("city", .str city.1), ("timezone", .str city.2), ("time", .str time)])
      (citiesIn table) entries := by
  rw [cityEntries, mapM_id_eq_ok_iff, forall₂_filterMap_iff] at h
  simp only [Option.isSome_map] at h
  refine h.imp ?_
  rintro city entry ⟨computation, hcomputation, hentry⟩
  cases hzone : Zone.ofName city.2 table with
  | error error => simp [hzone, Except.toOption] at hcomputation
  | ok zone =>
    simp only [hzone, Except.toOption, Option.map_some, Option.some.injEq] at hcomputation
    subst hcomputation
    obtain ⟨time, htime, rfl⟩ := map_eq_ok_iff.1 hentry
    exact ⟨zone, time, rfl, htime, rfl⟩

/-- What the document of world times holds when it is read. -/
lemma exists_of_readResource_worldTimes
    (h : readResource worldTimes.uri now metrics table = .ok (.ok content)) :
    ∃ utc entries, now.timestamp Zone.utc = .ok utc ∧ cityEntries now table = .ok entries ∧
      content = worldTimes.content (.obj [("utc", .str utc), ("cities", .arr entries)]) := by
  have huri : ofUri? worldTimes.uri = some worldTimes := ofUri_eq_some_iff.2 rfl
  simp only [readResource, huri, map_eq_ok_iff, body, bind_eq_ok_iff] at h
  obtain ⟨_, ⟨utc, hutc, entries, hentries, hbody⟩, hcontent⟩ := h
  cases hbody
  exact ⟨utc, entries, hutc, hentries, (Except.ok.inj hcontent).symm⟩

lemma content_eq (resource : Resource) (body : Json) :
    resource.content body = .obj [("mimeType", .str mimeType),
      ("text", .str body.canonical.text), ("uri", .str resource.uri)] :=
  Json.object_eq_obj ((List.Perm.swap _ _ _).trans (.cons _ (.swap _ _ _)))
    (by decide : ["mimeType", "text", "uri"].Pairwise (· < ·))

/-- The text of a reading is read as what the resource holds. -/
lemma ofText_content {body : Json} {limit : Nat} (h : body.Fits limit)
    (hlimit : limit ≤ Json.maxDepth) :
    Json.ofText? body.canonical.text.toList = some body.canonical := by
  have hfits := h.canonical.mono hlimit
  rw [Json.ofText_text hfits.plain hfits.depth_le, Json.canonical_canonical]

lemma canonical_entry (city id time : String) :
    (Json.obj [("city", .str city), ("timezone", .str id), ("time", .str time)]).canonical =
      .obj [("city", .str city), ("time", .str time), ("timezone", .str id)] :=
  Json.canonical_obj rfl (.cons _ (.swap _ _ _))
    (by decide : ["city", "time", "timezone"].Pairwise (· < ·))

lemma canonical_worldTimes (utc : String) (entries : List Json) :
    (Json.obj [("utc", .str utc), ("cities", .arr entries)]).canonical =
      .obj [("cities", .arr (entries.map Json.canonical)), ("utc", .str utc)] := by
  have hread : Json.canonicalMembers [("utc", .str utc), ("cities", .arr entries)] =
      [("utc", .str utc), ("cities", .arr (entries.map Json.canonical))] := by
    simp [Json.canonicalMembers, Json.canonical, Json.canonicalItems_eq_map]
  exact Json.canonical_obj hread (.swap _ _ _) (by decide : ["cities", "utc"].Pairwise (· < ·))

lemma fits_worldTimes (utc : String) (h : cityEntries now table = .ok entries) :
    (Json.obj [("utc", .str utc), ("cities", .arr entries)]).Fits 3 := by
  have hentries : ∀ entry ∈ entries, entry.Fits 1 := by
    have hfits : List.Forall₂ (fun entry _ => entry.Fits 1 ∧ True) entries (citiesIn table) := by
      refine (forall₂_cityEntries h).flip.imp ?_
      rintro _ city ⟨_, time, -, -, rfl⟩
      exact ⟨Json.fits_obj (by simp) (by simp), trivial⟩
    exact ((List.forall₂_and_left _ _).1 hfits).1
  exact Json.fits_obj (by simp) (by simp [Json.fits_arr hentries])

/-- The document can be read whenever it is a day at least from the ends of the calendar. -/
lemma exists_readResource_worldTimes (metrics : Metrics) (table : ZoneTable)
    (hfirst : firstSecond + 86400 ≤ now.seconds) (hlast : now.seconds + 86400 ≤ lastSecond) :
    ∃ content, readResource worldTimes.uri now metrics table = .ok (.ok content) := by
  have hruns : ¬ Stops (readResource worldTimes.uri now metrics table) := by
    rw [stops_readResource_iff]
    rintro (⟨-, city, -, zone, -, hrange⟩ | ⟨huri, -⟩)
    · have hshort := isShortOffset_iff.1 (Instant.isShortOffset_offsetAt now zone)
      rw [second_localTime, InRange] at hrange
      omega
    · exact absurd huri (by decide)
  have huri : ofUri? worldTimes.uri = some worldTimes := ofUri_eq_some_iff.2 rfl
  simp only [readResource, huri] at hruns ⊢
  cases hbody : worldTimes.body now metrics table with
  | error cause => exact absurd ⟨cause, by rw [hbody]; rfl⟩ hruns
  | ok body => exact ⟨_, rfl⟩

end Resource

/-! ### All say the same -/

/-- All that tells the current time tells the same. There is a time of UTC that the tool tells.
Whatever this is converted to for another zone, the tool tells for that zone, unless the clock is
inside a leap second that follows a second other than the last one of a minute, and the zone is by a
part of a minute from UTC: then it tells something else. Whenever the document of world times can be
read, it has the time of UTC, and for each city whose zone is known what the tool tells for it. -/
theorem tellTime_agrees (now : Instant) (table : ZoneTable) :
    ∃ utc, Tool.tellTime ⟨none⟩ now table = .ok (.ok utc) ∧
      Tool.tellTime ⟨some "UTC"⟩ now table = .ok (.ok utc) ∧
      (∀ source target written, convert utc source target table = .ok (.ok written) →
        ∃ zone, Zone.ofName target table = .ok zone ∧
          (Tool.tellTime ⟨some target⟩ now table = .ok (.ok written) ↔
            ¬ (now.Carries ∧ zone.offsetAt now % 60 ≠ 0))) ∧
      ∀ metrics content,
        readResource "time://current/world" now metrics table = .ok (.ok content) →
          ∃ text document entries, content.get? "text" = some (.str text) ∧
            Json.ofText? text.toList = some document ∧ document.get? "utc" = some (.str utc) ∧
            document.get? "cities" = some (.arr entries) ∧
            List.Forall₂ (fun city entry => ∃ time,
              entry =
                .obj [("city", .str city.1), ("time", .str time), ("timezone", .str city.2)] ∧
              Tool.tellTime ⟨some city.2⟩ now table = .ok (.ok time))
              (Resource.citiesIn table) entries := by
  obtain ⟨utc, hutc⟩ := ok_of_not_stops (not_stops_timestamp_utc now)
  refine ⟨utc, (Tool.tellTime_eq_ok_iff none (ofName_eq_utc (by decide +kernel)) now utc).2 hutc,
    (Tool.tellTime_eq_ok_iff (some "UTC") (ofName_eq_utc (by decide +kernel)) now utc).2 hutc,
    ?_, ?_⟩
  · intro source target written h
    obtain ⟨zone, hzone, hwritten⟩ := timestamp_of_convert_stamp hutc h
    exact ⟨zone, hzone, (Tool.tellTime_eq_ok_iff (some target) hzone now written).trans hwritten⟩
  · intro metrics content h
    obtain ⟨shown, entries, hshown, hentries, rfl⟩ := Resource.exists_of_readResource_worldTimes h
    cases hutc.symm.trans hshown
    have hbody := Resource.canonical_worldTimes utc entries
    refine ⟨_, _, entries.map Json.canonical, by rw [Resource.content_eq]; rfl,
      Resource.ofText_content (Resource.fits_worldTimes utc hentries) (by decide),
      by rw [hbody]; rfl, by rw [hbody]; rfl, ?_⟩
    rw [List.forall₂_map_right_iff]
    refine (Resource.forall₂_cityEntries hentries).imp ?_
    rintro city _ ⟨zone, time, hzone, htime, rfl⟩
    exact ⟨time, Resource.canonical_entry city.1 city.2 time,
      (Tool.tellTime_eq_ok_iff (some city.2) hzone now time).2 htime⟩

/-- In the middle of the leap second at the end of 2016, what UTC shows is converted to what the
tool tells for Tokyo, and the document of world times has it too. -/
theorem tellTime_agrees_leap :
    let now : Instant := ⟨1483228799, 1500000000, by decide, by decide⟩
    Tool.tellTime ⟨none⟩ now = .ok (.ok "2016-12-31T23:59:60+00:00") ∧
      convert "2016-12-31T23:59:60+00:00" "Europe/Paris" "Asia/Tokyo" =
        .ok (.ok "2017-01-01T08:59:60+09:00") ∧
      Tool.tellTime ⟨some "Asia/Tokyo"⟩ now = .ok (.ok "2017-01-01T08:59:60+09:00") ∧
      ∃ content text document entries,
        readResource "time://current/world" now (.ofNames []) = .ok (.ok content) ∧
        content.get? "text" = some (.str text) ∧ Json.ofText? text.toList = some document ∧
        document.get? "utc" = some (.str "2016-12-31T23:59:60+00:00") ∧
        document.get? "cities" = some (.arr entries) ∧
        entries.length = Resource.cities.length ∧
        entries[8]? = some (.obj [("city", .str "Tokyo"),
          ("time", .str "2017-01-01T08:59:60+09:00"), ("timezone", .str "Asia/Tokyo")]) := by
  intro now
  have hutc : Tool.tellTime ⟨none⟩ now = .ok (.ok "2016-12-31T23:59:60+00:00") :=
    (Tool.tellTime_eq_ok_iff none (ofName_eq_utc (by decide +kernel)) now _).2 (by decide +kernel)
  have hconvert : convert "2016-12-31T23:59:60+00:00" "Europe/Paris" "Asia/Tokyo" =
      .ok (.ok "2017-01-01T08:59:60+09:00") := by decide +kernel
  have hcarries : ¬ now.Carries := by decide
  obtain ⟨utc, hnone, -, hagrees, hdocument⟩ := tellTime_agrees now Zone.find?
  cases hutc.symm.trans hnone
  obtain ⟨_, -, htold⟩ := hagrees _ _ _ hconvert
  have htokyo := htold.2 fun hexception => hcarries hexception.1
  obtain ⟨content, hcontent⟩ := Resource.exists_readResource_worldTimes (.ofNames []) Zone.find?
    (by decide : firstSecond + 86400 ≤ now.seconds) (by decide)
  obtain ⟨text, document, entries, htext, hread, hshown, hentries, hcities⟩ :=
    hdocument _ content hcontent
  have hall : Resource.citiesIn Zone.find? = Resource.cities := by decide +kernel
  rw [hall] at hcities
  have hlength : Resource.cities.length = entries.length := hcities.length_eq
  have hindex : 8 < Resource.cities.length := by decide
  obtain ⟨time, hentry, htime⟩ := hcities.get hindex (hlength ▸ hindex)
  cases htokyo.symm.trans htime
  refine ⟨hutc, hconvert, htokyo, content, text, document, entries, hcontent, htext, hread, hshown,
    hentries, hlength.symm, ?_⟩
  rw [List.getElem?_eq_getElem (hlength ▸ hindex)]
  exact congrArg some hentry

/-- A leap second in the middle of a minute of UTC, at the end of local mean time in Kathmandu. UTC
shows the next second, which is converted to what Kathmandu shows then. -/
theorem tellTime_kathmandu_ne_convert :
    let now : Instant := ⟨-1577943677, 1000000000, by decide, by decide⟩
    Tool.tellTime ⟨some "UTC"⟩ now = .ok (.ok "1919-12-31T18:18:44+00:00") ∧
      convert "1919-12-31T18:18:44+00:00" "UTC" "Asia/Kathmandu" =
        .ok (.ok "1919-12-31T23:48:44+05:30") ∧
      Tool.tellTime ⟨some "Asia/Kathmandu"⟩ now = .ok (.ok "1919-12-31T23:59:60+05:41") := by
  intro now
  have hzone : Zone.ofName "Asia/Kathmandu" = .ok ⟨"Asia/Kathmandu", .kathmandu⟩ := rfl
  exact ⟨(Tool.tellTime_eq_ok_iff (some "UTC") (ofName_eq_utc (by decide +kernel)) now _).2
    (by decide +kernel), by decide +kernel,
    (Tool.tellTime_eq_ok_iff (some "Asia/Kathmandu") hzone now _).2 (by decide +kernel)⟩

end WorldClock
