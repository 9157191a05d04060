import Mathlib.Tactic
import WorldClock.Time.Resolution
/-!
# Both ways between local time and UTC

The offset in force is looked up by a second of UTC, and the spans that show a local second are
looked up by that local second. Both look-ups agree (`History.exists_span_iff`): a second of UTC
shows a local second exactly if it is the one that a span makes of it. The search by halving finds
all such spans (`History.finds_resolve`), because what clocks show in a span comes neither before
nor after what they show in an earlier one, and no two spans with another one in between show the
same local second.
-/

namespace WorldClock

/-! ### Regular offsets -/

lemma isShortOffset_iff {offset : Int} :
    isShortOffset offset = true ↔ -86400 < offset ∧ offset < 86400 := by
  simp [isShortOffset]

lemma Transition.canFollow_iff {transition : Transition} {offset : Int} :
    transition.canFollow offset = true ↔
      (firstSecond + twoDays ≤ transition.start ∧ transition.start ≤ lastSecond - twoDays) ∧
        (offset % 60 = 0 → transition.start % 60 = 0) := by
  simp [canFollow, Decidable.imp_iff_not_or]

lemma Transition.leavesRoom_iff {transition next : Transition} {offset : Int} :
    transition.leavesRoom offset next = true ↔
      (transition.start + offset ≤ next.start + transition.offset ∧
        transition.start + offset ≤ next.start + next.offset) ∧
      (transition.start ≤ next.start ∧
        transition.start + transition.offset ≤ next.start + next.offset) := by
  simp [leavesRoom]

lemma followRegularly_cons {offset : Int} {next : Transition} {rest : List Transition} :
    followRegularly offset (next :: rest) = true ↔
      isShortOffset offset = true ∧ next.canFollow offset = true ∧
        (∀ second ∈ rest.head?, next.leavesRoom offset second = true) ∧
        followRegularly next.offset rest = true := by
  simp [followRegularly, Option.all_eq_true, and_assoc]

/-! ### Spans -/

namespace Span

/-- Whether a second of UTC lies in a span. -/
def Contains (span : Span) (second : Int) : Prop :=
  (∀ start ∈ span.start, start ≤ second) ∧ ∀ stop ∈ span.stop, second < stop

lemma locate_eq_lt_iff {span : Span} {shown : Int} :
    span.locate shown = .lt ↔ ∃ start ∈ span.start, shown < start + span.offset := by
  simp only [locate, Option.any_eq_true, decide_eq_true_eq]
  split_ifs with hstart hstop
  · simp [hstart]
  · simpa using hstart
  · simpa using hstart

lemma locate_eq_gt_iff {span : Span} {shown : Int} :
    span.locate shown = .gt ↔ (∀ start ∈ span.start, start + span.offset ≤ shown) ∧
      ∃ stop ∈ span.stop, stop + span.offset ≤ shown := by
  simp only [locate, Option.any_eq_true, decide_eq_true_eq]
  split_ifs with hstart hstop
  · obtain ⟨start, hmem, hlt⟩ := hstart
    simp only [false_iff, not_and]
    intro hall
    exact absurd (hall start hmem) (by omega)
  · push Not at hstart
    exact ⟨fun _ => ⟨hstart, hstop⟩, fun _ => rfl⟩
  · simp [hstop]

lemma shows_iff_locate {span : Span} {shown : Int} :
    span.shows shown = true ↔ span.locate shown = .eq :=
  beq_iff_eq

lemma shows_iff {span : Span} {shown : Int} :
    span.shows shown = true ↔ span.Contains (shown - span.offset) := by
  simp only [shows, locate, Contains, Option.any_eq_true, decide_eq_true_eq, beq_iff_eq]
  split_ifs with hstart hstop
  · obtain ⟨start, hmem, hlt⟩ := hstart
    simp only [false_iff, not_and]
    intro hall
    exact absurd (hall start hmem) (by omega)
  · obtain ⟨stop, hmem, hle⟩ := hstop
    simp only [false_iff, not_and]
    intro _ hall
    exact absurd (hall stop hmem) (by omega)
  · push Not at hstart hstop
    refine ⟨fun _ => ⟨fun start hmem => ?_, fun stop hmem => ?_⟩, fun _ => rfl⟩
    · have := hstart start hmem
      omega
    · have := hstop stop hmem
      omega

/-- One span comes before another. All seconds of the later one are past the earlier one, and also
what clocks show does not fall back behind the earlier span or ahead of the later one. -/
structure Precedes (a b : Span) : Prop where
  past : ∀ second, (∀ start ∈ b.start, start ≤ second) →
    (∀ start ∈ a.start, start ≤ second) ∧ ∃ stop ∈ a.stop, stop ≤ second
  lt : ∀ shown, a.locate shown = .lt → b.locate shown = .lt
  gt : ∀ shown, b.locate shown = .gt → a.locate shown = .gt

instance : Trans Precedes Precedes Precedes where
  trans hab hbc := {
    past := fun second hsecond => hab.past second (hbc.past second hsecond).1
    lt := fun shown h => hbc.lt shown (hab.lt shown h)
    gt := fun shown h => hab.gt shown (hbc.gt shown h) }

/-- No second lies in two spans of which one comes before the other. -/
lemma Precedes.not_contains {a b : Span} (h : a.Precedes b) {second : Int}
    (hb : b.Contains second) : ¬ a.Contains second := by
  intro ha
  obtain ⟨-, stop, hstop, hle⟩ := h.past second hb.1
  exact absurd (ha.2 stop hstop) (by omega)

@[simp] lemma head?_sequence (start : Option Int) (offset : Int) (transitions : List Transition) :
    (sequence start offset transitions).head? =
      some ⟨start, transitions.head?.map Transition.start, offset⟩ := by
  cases transitions <;> rfl

/-- The start of a span and the transition at its end, in an order that agrees with what clocks
show. -/
def StartsBefore (start : Option Int) (offset : Int) (next : Transition) : Prop :=
  ∀ second ∈ start, second ≤ next.start ∧ second + offset ≤ next.start + next.offset

/-- A span comes before the one that begins with the transition at its end. -/
lemma precedes_next {start stop : Option Int} {offset : Int} {next : Transition}
    (hstart : StartsBefore start offset next)
    (hstop : ∀ second ∈ stop, next.start + offset ≤ second + next.offset) :
    Precedes ⟨start, some next.start, offset⟩ ⟨some next.start, stop, next.offset⟩ where
  past second hsecond := by
    have hnext : next.start ≤ second := hsecond _ rfl
    refine ⟨fun first hfirst => ?_, next.start, rfl, hnext⟩
    have := (hstart first hfirst).1
    omega
  lt shown h := by
    obtain ⟨first, hfirst, hlt⟩ := locate_eq_lt_iff.1 h
    have := (hstart first hfirst).2
    exact locate_eq_lt_iff.2 ⟨next.start, rfl, by dsimp only at hlt ⊢; omega⟩
  gt shown h := by
    obtain ⟨hle, last, hlast, hpast⟩ := locate_eq_gt_iff.1 h
    have hle : next.start + next.offset ≤ shown := hle _ rfl
    have hroom := hstop last hlast
    refine locate_eq_gt_iff.2 ⟨fun first hfirst => ?_, next.start, rfl, ?_⟩
    · have := (hstart first hfirst).2
      dsimp only
      omega
    · dsimp only at hpast ⊢
      omega

/-- The spans of regular offsets come one before another. -/
lemma isChain_sequence {start : Option Int} {offset : Int} {transitions : List Transition}
    (hstart : ∀ next ∈ transitions.head?, StartsBefore start offset next)
    (hregular : followRegularly offset transitions = true) :
    (sequence start offset transitions).IsChain Precedes := by
  induction transitions generalizing start offset with
  | nil => exact .singleton _
  | cons next rest ih =>
    obtain ⟨-, -, hroom, hrest⟩ := followRegularly_cons.1 hregular
    refine List.isChain_cons.2 ⟨fun span hspan => ?_, ih (fun second hsecond => ?_) hrest⟩
    · rw [head?_sequence, Option.mem_some_iff] at hspan
      subst hspan
      apply precedes_next (hstart next rfl)
      intro stop hstop
      obtain ⟨second, hsecond, rfl⟩ := Option.mem_map.1 hstop
      exact (Transition.leavesRoom_iff.1 (hroom second hsecond)).1.1
    · rintro _ ⟨⟩
      exact (Transition.leavesRoom_iff.1 (hroom second hsecond)).2

/-- What a span shows is past when the span after the next one begins. -/
lemma not_shows_of_shows {start : Option Int} {offset : Int} {transitions : List Transition}
    (hregular : followRegularly offset transitions = true) {number : Nat} {a b : Span}
    (ha : (sequence start offset transitions)[number]? = some a)
    (hb : (sequence start offset transitions)[number + 2]? = some b) {shown : Int}
    (hshows : a.shows shown = true) : ¬ b.shows shown = true := by
  induction transitions generalizing start offset number with
  | nil => simp [sequence] at hb
  | cons next rest ih =>
    obtain ⟨-, -, hroom, hrest⟩ := followRegularly_cons.1 hregular
    cases number with
    | succ number => exact ih hrest ha hb
    | zero =>
      cases rest with
      | nil => simp [sequence] at hb
      | cons second rest =>
        have hroom := (Transition.leavesRoom_iff.1 (hroom second rfl)).1.2
        obtain rfl : ⟨start, some next.start, offset⟩ = a := Option.some.inj ha
        replace hb : (sequence (some second.start) second.offset rest).head? = some b := by
          rw [List.head?_eq_getElem?]
          exact hb
        rw [head?_sequence, Option.some.injEq] at hb
        subst hb
        rw [shows_iff] at hshows ⊢
        intro hlater
        have hstop : shown - offset < next.start := hshows.2 _ rfl
        have hstart : second.start ≤ shown - second.offset := hlater.1 _ rfl
        omega

/-- The offset of a span is short, and its stop is far from the ends of time. -/
lemma bounds_of_mem_sequence {start : Option Int} {offset : Int} {transitions : List Transition}
    (hregular : followRegularly offset transitions = true) {span : Span}
    (hspan : span ∈ sequence start offset transitions) :
    isShortOffset span.offset = true ∧
      ∀ stop ∈ span.stop, firstSecond + twoDays ≤ stop ∧ stop ≤ lastSecond - twoDays := by
  induction transitions generalizing start offset with
  | nil =>
    obtain rfl := List.mem_singleton.1 hspan
    exact ⟨hregular, by simp⟩
  | cons next rest ih =>
    obtain ⟨hshort, hfollow, -, hrest⟩ := followRegularly_cons.1 hregular
    obtain rfl | hspan := List.mem_cons.1 hspan
    · refine ⟨hshort, ?_⟩
      rintro _ ⟨⟩
      exact (Transition.canFollow_iff.1 hfollow).1
    · exact ih hrest hspan

/-- Each second lies in a span, which has the offset that is in force. -/
lemma exists_mem_sequence {start : Option Int} (offset : Int) (transitions : List Transition)
    {second : Int} (hstart : ∀ first ∈ start, first ≤ second) :
    ∃ span ∈ sequence start offset transitions, span.Contains second ∧
      span.offset = History.offsetAfter offset transitions second := by
  induction transitions generalizing start offset with
  | nil => exact ⟨_, List.mem_singleton_self _, ⟨hstart, by simp⟩, rfl⟩
  | cons next rest ih =>
    by_cases hlt : second < next.start
    · refine ⟨_, List.mem_cons_self, ⟨hstart, ?_⟩, (if_pos hlt).symm⟩
      rintro _ ⟨⟩
      exact hlt
    · have hnext : ∀ first ∈ some next.start, first ≤ second := by
        rintro _ ⟨⟩
        omega
      obtain ⟨span, hspan, hcontains, hoffset⟩ := ih next.offset hnext
      exact ⟨span, List.mem_cons_of_mem _ hspan, hcontains, hoffset.trans (if_neg hlt).symm⟩

end Span

/-! ### Histories -/

namespace History

lemma pairwise_spans (history : History) : history.spans.Pairwise Span.Precedes :=
  List.isChain_iff_pairwise.1
    (Span.isChain_sequence (fun _ _ _ h => by cases h) history.regular)

/-- Two spans are one if a second lies in both. -/
lemma eq_of_contains {history : History} {a b : Span} (ha : a ∈ history.spans)
    (hb : b ∈ history.spans) {second : Int} (hasecond : a.Contains second)
    (hbsecond : b.Contains second) : a = b := by
  obtain ⟨i, hi, rfl⟩ := List.getElem_of_mem ha
  obtain ⟨j, hj, rfl⟩ := List.getElem_of_mem hb
  have hpairwise := List.pairwise_iff_getElem.1 history.pairwise_spans
  rcases Nat.lt_trichotomy i j with hlt | rfl | hgt
  · exact absurd hasecond ((hpairwise i j hi hj hlt).not_contains hbsecond)
  · rfl
  · exact absurd hbsecond ((hpairwise j i hj hi hgt).not_contains hasecond)

lemma offsetAt_of_contains {history : History} {span : Span} (hspan : span ∈ history.spans)
    {second : Int} (h : span.Contains second) : history.offsetAt second = span.offset := by
  have hstart : ∀ first ∈ (none : Option Int), first ≤ second := by simp
  obtain ⟨found, hfound, hcontains, hoffset⟩ :=
    Span.exists_mem_sequence history.initial history.transitions hstart
  rw [eq_of_contains hspan hfound h hcontains, hoffset]
  rfl

lemma isShortOffset_offsetAt (history : History) (second : Int) :
    isShortOffset (history.offsetAt second) = true := by
  have hstart : ∀ first ∈ (none : Option Int), first ≤ second := by simp
  obtain ⟨span, hspan, -, hoffset⟩ :=
    Span.exists_mem_sequence history.initial history.transitions hstart
  have hshort := (Span.bounds_of_mem_sequence history.regular hspan).1
  rwa [hoffset] at hshort

lemma offsetAfter_succ {offset : Int} {transitions : List Transition}
    (hregular : followRegularly offset transitions = true) {second : Int}
    (hminutes : offsetAfter offset transitions second % 60 = 0) (hsecond : (second + 1) % 60 ≠ 0) :
    offsetAfter offset transitions (second + 1) = offsetAfter offset transitions second := by
  induction transitions generalizing offset with
  | nil => rfl
  | cons next rest ih =>
    obtain ⟨-, hfollow, -, hrest⟩ := followRegularly_cons.1 hregular
    have hwhole := (Transition.canFollow_iff.1 hfollow).2
    unfold offsetAfter at hminutes ⊢
    by_cases hlt : second < next.start
    · rw [if_pos hlt] at hminutes ⊢
      have hstart := hwhole hminutes
      rw [if_pos (by omega)]
    · rw [if_neg hlt] at hminutes ⊢
      rw [if_neg (by omega)]
      exact ih hrest hminutes

/-- An offset of whole minutes lasts until the end of a minute. -/
lemma offsetAt_succ (history : History) {second : Int} (hminutes : history.offsetAt second % 60 = 0)
    (hsecond : (second + 1) % 60 ≠ 0) :
    history.offsetAt (second + 1) = history.offsetAt second :=
  offsetAfter_succ history.regular hminutes hsecond

/-- The look-up by UTC and the look-up by local time agree: a second of UTC shows a local second
exactly if a span that shows it makes that second of it. -/
theorem exists_span_iff (history : History) (second shown : Int) :
    second + history.offsetAt second = shown ↔
      ∃ span ∈ history.spans, span.shows shown = true ∧ second = shown - span.offset := by
  constructor
  · rintro rfl
    have hstart : ∀ first ∈ (none : Option Int), first ≤ second := by simp
    obtain ⟨span, hspan, hcontains, hoffset⟩ :=
      Span.exists_mem_sequence history.initial history.transitions hstart
    have heq : second + history.offsetAt second - span.offset = second := by
      rw [hoffset]
      exact add_sub_cancel_right second _
    exact ⟨span, hspan, Span.shows_iff.2 (by rwa [heq]), heq.symm⟩
  · rintro ⟨span, hspan, hshows, rfl⟩
    rw [offsetAt_of_contains hspan (Span.shows_iff.1 hshows)]
    exact sub_add_cancel shown span.offset

end History

/-! ### Looking for a local second -/

section findShowing

variable {spans : List Span} {shown : Int} {first stop : Nat} {h : stop ≤ spans.length}

/-- What the search by halving finds shows the local second. -/
lemma shows_of_findShowing {number : Fin spans.length}
    (hfound : findShowing spans shown first stop h = some number) :
    spans[number].shows shown = true := by
  fun_induction findShowing spans shown first stop h with
  | case1 first stop h hlt middle hlocate ih => exact ih hfound
  | case2 first stop h hlt middle hlocate =>
    obtain rfl := Option.some.inj hfound
    exact beq_iff_eq.2 hlocate
  | case3 first stop h hlt middle hlocate ih => exact ih hfound
  | case4 first stop h hlt => cases hfound

/-- The search by halving finds something if there is anything to be found. -/
lemma not_shows_of_findShowing (hspans : spans.Pairwise Span.Precedes)
    (hfound : findShowing spans shown first stop h = none) {number : Fin spans.length}
    (hfirst : first ≤ number) (hstop : number < stop) : ¬ spans[number].shows shown = true := by
  rw [List.pairwise_iff_getElem] at hspans
  rw [Span.shows_iff_locate]
  fun_induction findShowing spans shown first stop h with
  | case1 first stop h hlt middle hlocate ih =>
    intro hshows
    refine ih hfound hfirst (Nat.lt_of_not_le fun hle => ?_) hshows
    obtain heq | hgt := Nat.eq_or_lt_of_le hle
    · rw [← Fin.ext heq, hlocate] at hshows
      cases hshows
    · have hlt := (hspans _ _ middle.isLt number.isLt hgt).lt shown hlocate
      cases hshows.symm.trans hlt
  | case2 first stop h hlt middle hlocate => cases hfound
  | case3 first stop h hlt middle hlocate ih =>
    intro hshows
    refine ih hfound (Nat.lt_of_not_le fun hle => ?_) hstop hshows
    obtain heq | hgt := Nat.eq_or_lt_of_le hle
    · rw [Fin.ext heq, hlocate] at hshows
      cases hshows
    · have hgt := (hspans _ _ number.isLt middle.isLt hgt).gt shown hlocate
      cases hshows.symm.trans hgt
  | case4 first stop h hlt => omega

end findShowing

namespace History

variable {history : History} {shown : Int}

/-- Two spans that show the same local second follow right after each other. -/
lemma eq_succ_of_shows {i j : Nat} {a b : Span} (ha : history.spans[i]? = some a)
    (hb : history.spans[j]? = some b) (hashows : a.shows shown = true)
    (hbshows : b.shows shown = true) (hlt : i < j) : j = i + 1 := by
  by_contra hne
  obtain ⟨hi, rfl⟩ := List.getElem?_eq_some_iff.1 ha
  obtain ⟨hj, rfl⟩ := List.getElem?_eq_some_iff.1 hb
  have hpairwise := List.pairwise_iff_getElem.1 history.pairwise_spans
  have hk : i + 2 < history.spans.length := by omega
  refine Span.not_shows_of_shows history.regular ha (List.getElem?_eq_getElem hk) hashows ?_
  rw [Span.shows_iff_locate] at hashows hbshows ⊢
  obtain rfl | hlater : j = i + 2 ∨ i + 2 < j := by omega
  · exact hbshows
  cases hlocate : history.spans[i + 2].locate shown with
  | eq => rfl
  | lt =>
    rw [(hpairwise _ _ hk hj hlater).lt shown hlocate] at hbshows
    cases hbshows
  | gt =>
    rw [(hpairwise _ _ hi hk (by omega)).gt shown hlocate] at hashows
    cases hashows

end History

/-- A resolution has just the spans that show a local second, in the order of time. -/
inductive Resolution.Finds (spans : List Span) (shown : Int) : Resolution Span → Prop
  | none (hnone : ∀ span ∈ spans, ¬ span.shows shown = true) : Finds spans shown .none
  | single {span : Span} (hmem : span ∈ spans) (hshows : span.shows shown = true)
      (honly : ∀ other ∈ spans, other.shows shown = true → other = span) :
      Finds spans shown (.single span)
  | ambiguous {a b : Span} (ha : a ∈ spans) (hb : b ∈ spans) (hashows : a.shows shown = true)
      (hbshows : b.shows shown = true) (hprecedes : a.Precedes b)
      (honly : ∀ other ∈ spans, other.shows shown = true → other = a ∨ other = b) :
      Finds spans shown (.ambiguous a b)

namespace History

variable {history : History} {shown : Int}

lemma showing?_eq_some_iff {spans : List Span} {number : Nat} {span : Span} :
    showing? spans shown number = some span ↔
      spans[number]? = some span ∧ span.shows shown = true :=
  Option.filter_eq_some_iff

/-- What shows the same local second as a span is that span or one of its two neighbours. -/
lemma near_of_shows {number : Fin history.spans.length} {other : Span}
    (hshows : history.spans[number].shows shown = true) (hother : other ∈ history.spans)
    (hothershows : other.shows shown = true) :
    number.val ≠ 0 ∧ showing? history.spans shown (number - 1) = some other ∨
      other = history.spans[number] ∨ showing? history.spans shown (number + 1) = some other := by
  have hget : history.spans[number.val]? = some history.spans[number] :=
    List.getElem?_eq_getElem number.isLt
  obtain ⟨k, hk⟩ := List.getElem?_of_mem hother
  rcases Nat.lt_trichotomy k number with hlt | rfl | hgt
  · have hsucc := eq_succ_of_shows hk hget hothershows hshows hlt
    refine .inl ⟨by omega, showing?_eq_some_iff.2 ⟨?_, hothershows⟩⟩
    rwa [hsucc, Nat.add_sub_cancel]
  · exact .inr (.inl (Option.some.inj (hk.symm.trans hget)))
  · have hsucc := eq_succ_of_shows hget hk hshows hothershows hgt
    exact .inr (.inr (showing?_eq_some_iff.2 ⟨hsucc ▸ hk, hothershows⟩))

lemma finds_showingAround {number : Fin history.spans.length}
    (hshows : history.spans[number].shows shown = true) :
    (showingAround history.spans shown number).Finds history.spans shown := by
  have hget : history.spans[number.val]? = some history.spans[number] :=
    List.getElem?_eq_getElem number.isLt
  have hmem : history.spans[number] ∈ history.spans := List.getElem_mem _
  have hpairwise := List.pairwise_iff_getElem.1 history.pairwise_spans
  unfold showingAround
  cases hbefore : if number.val = 0 then none else showing? history.spans shown (number - 1) with
  | some earlier =>
    obtain ⟨hzero, hearlier⟩ := (Option.ite_none_left_eq_some).1 hbefore
    obtain ⟨hearlierget, hearliershows⟩ := showing?_eq_some_iff.1 hearlier
    obtain ⟨hlt, rfl⟩ := List.getElem?_eq_some_iff.1 hearlierget
    refine .ambiguous (List.getElem_mem _) hmem hearliershows hshows
      (hpairwise _ _ hlt number.isLt (by omega)) fun other hother hothershows => ?_
    rcases near_of_shows hshows hother hothershows with ⟨-, heq⟩ | heq | heq
    · exact .inl (Option.some.inj (heq.symm.trans hearlier))
    · exact .inr heq
    · -- The two neighbours of a span do not show the same local second.
      obtain ⟨hotherget, -⟩ := showing?_eq_some_iff.1 heq
      have := eq_succ_of_shows hearlierget hotherget hearliershows hothershows (by omega)
      omega
  | none =>
    have hnone : ∀ other, ¬ (number.val ≠ 0 ∧
        showing? history.spans shown (number - 1) = some other) := by
      rintro other ⟨hzero, heq⟩
      rw [if_neg hzero, heq] at hbefore
      cases hbefore
    cases hafter : showing? history.spans shown (number + 1) with
    | some later =>
      obtain ⟨hlaterget, hlatershows⟩ := showing?_eq_some_iff.1 hafter
      obtain ⟨hlt, rfl⟩ := List.getElem?_eq_some_iff.1 hlaterget
      refine .ambiguous hmem (List.getElem_mem _) hshows hlatershows
        (hpairwise _ _ number.isLt hlt (by omega)) fun other hother hothershows => ?_
      rcases near_of_shows hshows hother hothershows with hbefore' | heq | heq
      · exact absurd hbefore' (hnone other)
      · exact .inl heq
      · exact .inr (Option.some.inj (heq.symm.trans hafter))
    | none =>
      refine .single hmem hshows fun other hother hothershows => ?_
      rcases near_of_shows hshows hother hothershows with hbefore' | heq | heq
      · exact absurd hbefore' (hnone other)
      · exact heq
      · rw [hafter] at heq
        cases heq

/-- What is found by halving, with its two neighbours, is all that shows a local second. -/
theorem finds_resolve (history : History) (shown : Int) :
    (history.resolve shown).Finds history.spans shown := by
  unfold resolve
  cases hfound : findShowing history.spans shown 0 history.spans.length le_rfl with
  | none =>
    apply Resolution.Finds.none
    intro span hspan
    obtain ⟨number, hnumber, rfl⟩ := List.getElem_of_mem hspan
    let number : Fin history.spans.length := ⟨number, hnumber⟩
    exact not_shows_of_findShowing history.pairwise_spans hfound (Nat.zero_le number) hnumber
  | some number => exact finds_showingAround (shows_of_findShowing hfound)

end History

end WorldClock
