import Mathlib.Tactic
import WorldClock.Time.Conversion
/-!
# Texts that fit several layouts

A text may fit more than one of the accepted layouts. It denotes the same local time in each of them
(`Layout.localTime?_unique`), so the order in which the layouts are tried makes no difference to the
local time (`Layout.firstLocalTime?_eq_some_iff_of_perm`), nor to the instant that is found
(`Instant.ofTextIn_perm`).
-/

namespace WorldClock

/-! ### Reading piece by piece -/

/-- Only a fraction says anything about nanoseconds. -/
lemma Piece.nanos_of_read {piece : Piece} (hpiece : piece ≠ .fraction) {fields fields' : Fields}
    {cs rest : List Char} (h : piece.read fields cs = some (fields', rest)) :
    fields'.nanos = fields.nanos := by
  cases piece with
  | number field =>
    cases field <;>
      obtain ⟨_, -, heq⟩ := Option.map_eq_some_iff.1 h <;>
      cases heq <;> rfl
  | mark c =>
    obtain ⟨_, -, heq⟩ := Option.map_eq_some_iff.1 h
    cases heq
    rfl
  | blanks =>
    cases h
    rfl
  | fraction => exact absurd rfl hpiece

namespace Layout

variable {layout layout' : Layout} {fields fields' : Fields} {cs rest : List Char}

lemma read_cons (piece : Piece) (layout : Layout) (fields : Fields) (cs : List Char) :
    read (piece :: layout) fields cs =
      (piece.read fields cs).bind fun (fields, rest) => read layout fields rest := rfl

lemma read_append (layout layout' : Layout) (fields : Fields) (cs : List Char) :
    read (layout ++ layout') fields cs =
      (read layout fields cs).bind fun (fields, rest) => read layout' fields rest := by
  induction layout generalizing fields cs with
  | nil => rfl
  | cons piece layout ih =>
    simp only [List.cons_append, read_cons, Option.bind_assoc, ih]

lemma nanos_of_read (hlayout : .fraction ∉ layout)
    (h : layout.read fields cs = some (fields', rest)) : fields'.nanos = fields.nanos := by
  induction layout generalizing fields cs with
  | nil =>
    cases h
    rfl
  | cons piece layout ih =>
    rw [List.mem_cons, not_or] at hlayout
    obtain ⟨⟨between, rest'⟩, hpiece, hread⟩ := Option.bind_eq_some_iff.1 h
    rw [ih hlayout.2 hread, Piece.nanos_of_read (Ne.symm hlayout.1) hpiece]

/-! ### Times of day -/

/-- The layouts of a time of day. -/
def clocks : List Layout :=
  [seconds, seconds ++ [.fraction], minutes]

/-- A date, something in between and a time of day make up each of the accepted layouts. -/
lemma accepted_eq :
    accepted = [Piece.mark 'T', .blanks].flatMap fun separator =>
      clocks.map fun clock => date ++ separator :: clock := rfl

/-- A time of day does not begin with a letter. -/
lemma read_clock_letter {clock : Layout} (hclock : clock ∈ clocks) (fields : Fields)
    (cs : List Char) : clock.read fields ('T' :: cs) = none := by
  fin_cases hclock <;> rfl

/-- A time of day in seconds is also one with an empty fraction. -/
lemma read_fraction_of_seconds (hnanos : fields.nanos = 0)
    (h : seconds.read fields cs = some (fields', [])) :
    (seconds ++ [Piece.fraction]).read fields cs = some (fields', []) := by
  have hsame : fields'.nanos = 0 := (nanos_of_read (by decide) h).trans hnanos
  rw [read_append, h]
  exact congrArg (fun nanos => some ({ fields' with nanos := nanos }, [])) hsame.symm

/-- Where a time of day in minutes ends there is no second to be read. -/
lemma read_seconds_of_minutes (h : minutes.read fields cs = some (fields', [])) :
    (seconds ++ [Piece.fraction]).read fields cs = none := by
  rw [seconds, List.append_assoc, read_append, h]
  rfl

/-- A text is read in the same way in all layouts of a time of day that it fits. -/
lemma read_clock_unique {clock clock' : Layout} (hclock : clock ∈ clocks)
    (hclock' : clock' ∈ clocks) (hnanos : fields.nanos = 0) {a b : Fields}
    (h : clock.read fields cs = some (a, [])) (h' : clock'.read fields cs = some (b, [])) :
    a = b := by
  have hcases : ∀ {clock : Layout} {c : Fields}, clock ∈ clocks →
      clock.read fields cs = some (c, []) →
      minutes.read fields cs = some (c, []) ∨
        (seconds ++ [Piece.fraction]).read fields cs = some (c, []) := by
    intro clock c hmem hread
    simp only [clocks, List.mem_cons, List.not_mem_nil, or_false] at hmem
    rcases hmem with rfl | rfl | rfl
    · exact .inr (read_fraction_of_seconds hnanos hread)
    · exact .inr hread
    · exact .inl hread
  rcases hcases hclock h with ha | ha <;> rcases hcases hclock' h' with hb | hb
  · exact congrArg Prod.fst (Option.some.inj (ha.symm.trans hb))
  · cases (read_seconds_of_minutes ha).symm.trans hb
  · cases (read_seconds_of_minutes hb).symm.trans ha
  · exact congrArg Prod.fst (Option.some.inj (ha.symm.trans hb))

/-! ### Whole texts -/

/-- What a date and a time of day leave to be read after the date. -/
lemma read_of_mem_accepted (hlayout : layout ∈ accepted)
    (h : layout.read {} cs = some (fields, [])) :
    ∃ between after, date.read {} cs = some (between, after) ∧
      ∃ clock ∈ clocks,
        (∃ rest, after = 'T' :: rest ∧ clock.read between rest = some (fields, [])) ∨
        clock.read between (Text.dropBlanks after) = some (fields, []) := by
  simp only [accepted_eq, List.mem_flatMap, List.mem_map] at hlayout
  obtain ⟨separator, hseparator, clock, hclock, rfl⟩ := hlayout
  rw [read_append] at h
  obtain ⟨⟨between, after⟩, hdate, h⟩ := Option.bind_eq_some_iff.1 h
  obtain ⟨⟨same, rest⟩, hread, h⟩ := Option.bind_eq_some_iff.1 h
  refine ⟨between, after, hdate, clock, hclock, ?_⟩
  simp only [List.mem_cons, List.not_mem_nil, or_false] at hseparator
  rcases hseparator with rfl | rfl
  · left
    cases after with
    | nil => cases hread
    | cons c after =>
      obtain ⟨_, hmark, heq⟩ := Option.map_eq_some_iff.1 hread
      obtain ⟨rfl, hrest⟩ := Option.ite_none_right_eq_some.1 hmark
      cases hrest
      cases heq
      exact ⟨_, rfl, h⟩
  · cases hread
    exact .inr h

lemma read_unique (hlayout : layout ∈ accepted) (hlayout' : layout' ∈ accepted)
    (h : layout.read {} cs = some (fields, [])) (h' : layout'.read {} cs = some (fields', [])) :
    fields = fields' := by
  obtain ⟨between, after, hdate, clock, hclock, hread⟩ := read_of_mem_accepted hlayout h
  obtain ⟨_, _, hdate', clock', hclock', hread'⟩ := read_of_mem_accepted hlayout' h'
  cases hdate.symm.trans hdate'
  have hnanos : between.nanos = 0 := nanos_of_read (by decide) hdate
  have hletter : ∀ rest, Text.dropBlanks ('T' :: rest) = 'T' :: rest := fun _ => rfl
  rcases hread with ⟨rest, rfl, hread⟩ | hread <;> rcases hread' with ⟨rest', heq, hread'⟩ | hread'
  · cases heq
    exact read_clock_unique hclock hclock' hnanos hread hread'
  · rw [hletter, read_clock_letter hclock'] at hread'
    cases hread'
  · rw [heq, hletter, read_clock_letter hclock] at hread
    cases hread
  · exact read_clock_unique hclock hclock' hnanos hread hread'

lemma localTime?_eq_some_iff {time : LocalTime} :
    layout.localTime? cs = some time ↔
      ∃ fields : Fields, layout.read {} cs = some (fields, []) ∧ fields.localTime? = some time := by
  unfold localTime?
  split <;> rename_i hread
  · rw [hread]
    simp
  · constructor
    · intro h
      cases h
    · rintro ⟨fields, h, -⟩
      exact absurd h (hread fields)

/-- A text denotes the same local time in all accepted layouts that it fits. -/
theorem localTime?_unique (hlayout : layout ∈ accepted) (hlayout' : layout' ∈ accepted)
    {time time' : LocalTime} (h : layout.localTime? cs = some time)
    (h' : layout'.localTime? cs = some time') : time = time' := by
  obtain ⟨fields, hread, htime⟩ := localTime?_eq_some_iff.1 h
  obtain ⟨fields', hread', htime'⟩ := localTime?_eq_some_iff.1 h'
  rw [read_unique hlayout hlayout' hread hread'] at htime
  exact Option.some.inj (htime.symm.trans htime')

/-- In whatever order the layouts are tried, the first one that fits gives the local time of any
that fits. -/
lemma firstLocalTime?_eq_some_iff_of_perm {layouts : List Layout} (hperm : layouts.Perm accepted)
    {time : LocalTime} :
    firstLocalTime? layouts cs = some time ↔
      ∃ layout ∈ accepted, layout.localTime? cs = some time := by
  constructor
  · intro h
    obtain ⟨layout, hlayout, htime⟩ := List.exists_of_findSome?_eq_some h
    exact ⟨layout, hperm.mem_iff.1 hlayout, htime⟩
  · rintro ⟨layout, hlayout, htime⟩
    cases hfirst : firstLocalTime? layouts cs with
    | none =>
      have hnone := List.findSome?_eq_none_iff.1 hfirst layout (hperm.mem_iff.2 hlayout)
      cases hnone.symm.trans htime
    | some time' =>
      obtain ⟨layout', hlayout', htime'⟩ := List.exists_of_findSome?_eq_some hfirst
      rw [localTime?_unique hlayout (hperm.mem_iff.1 hlayout') htime htime']

/-- The first layout that fits gives the local time of any layout that fits. -/
theorem firstLocalTime?_eq_some_iff {time : LocalTime} :
    firstLocalTime? accepted cs = some time ↔
      ∃ layout ∈ accepted, layout.localTime? cs = some time :=
  firstLocalTime?_eq_some_iff_of_perm (.refl _)

lemma firstLocalTime?_perm {layouts : List Layout} (hperm : layouts.Perm accepted)
    (cs : List Char) : firstLocalTime? layouts cs = firstLocalTime? accepted cs := by
  ext time
  rw [firstLocalTime?_eq_some_iff_of_perm hperm, firstLocalTime?_eq_some_iff]

end Layout

/-! ### Layouts in any order -/

namespace Instant

/-- The instant that a text denotes if the layouts of a list are tried in turn. -/
def ofTextIn (layouts : List Layout) (text : String) (source : Zone) : Except TimeError Instant :=
  let cs := Text.trimmed text.toList
  match ofTimestamp? cs with
  | some instant => .ok instant
  | none =>
    match Layout.firstLocalTime? layouts cs with
    | none => .error (.invalidTime (Text.trim text))
    | some time =>
      match (source.resolve time).earliest? with
      | some instant => .ok instant
      | none => .error (.nonexistentLocalTime (Text.trim text) source.name)

lemma ofTextIn_accepted : ofTextIn Layout.accepted = ofText := rfl

/-- A text denotes the same local time in all layouts that it fits, so they can be tried in any
order. -/
theorem ofTextIn_perm :
    (∀ cs, ∀ layout ∈ Layout.accepted, ∀ layout' ∈ Layout.accepted, ∀ time time',
      layout.localTime? cs = some time → layout'.localTime? cs = some time' → time = time') ∧
    ∀ layouts, layouts.Perm Layout.accepted →
      ∀ text source, ofTextIn layouts text source = ofText text source := by
  constructor
  · intro cs layout hlayout layout' hlayout' time time' htime htime'
    exact Layout.localTime?_unique hlayout hlayout' htime htime'
  · intro layouts hperm text source
    rw [← ofTextIn_accepted, ofTextIn, ofTextIn, Layout.firstLocalTime?_perm hperm]

/-- A leap second fits a layout with a fraction and one without. Tried backwards, the layouts give
the same instant. -/
theorem ofTextIn_perm_backwards :
    let plain : Layout := Layout.date ++ [Piece.blanks] ++ Layout.seconds
    let fractional : Layout := plain ++ [Piece.fraction]
    plain ∈ Layout.accepted ∧ fractional ∈ Layout.accepted ∧
      (∃ time, plain.localTime? "2016-12-31 23:59:60".toList = some time ∧
        fractional.localTime? "2016-12-31 23:59:60".toList = some time) ∧
      Layout.accepted.reverse.Perm Layout.accepted ∧
      ofTextIn Layout.accepted.reverse "2016-12-31 23:59:60" Zone.utc =
        .ok ⟨1483228799, 1000000000, by decide, by decide⟩ := by
  intro plain fractional
  have hplain : plain ∈ Layout.accepted := by decide
  have hfractional : fractional ∈ Layout.accepted := by decide
  have hfits : (plain.localTime? "2016-12-31 23:59:60".toList).isSome ∧
      (fractional.localTime? "2016-12-31 23:59:60".toList).isSome := by decide +kernel
  have hperm : Layout.accepted.reverse.Perm Layout.accepted := List.reverse_perm _
  obtain ⟨hunique, hsame⟩ := ofTextIn_perm
  obtain ⟨time, htime⟩ := Option.isSome_iff_exists.1 hfits.1
  obtain ⟨time', htime'⟩ := Option.isSome_iff_exists.1 hfits.2
  obtain rfl := hunique _ plain hplain fractional hfractional time time' htime htime'
  refine ⟨hplain, hfractional, ⟨time, htime, htime'⟩, hperm, ?_⟩
  rw [hsame _ hperm]
  decide +kernel

end Instant

end WorldClock
