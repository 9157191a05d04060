import WorldClock.Proofs.Metrics.Tally
/-!
# Reports but for response times

Response times are measured, so two servers that are asked the same do not give the same figures.
Calls that are the same but for their durations lead to reports that are the same but for the
figures on response times (`Metrics.report_alike`).
-/

namespace WorldClock

/-! ### Calls -/

/-- A call as if it had taken no time. -/
def Call.untimed (call : Call) : Call :=
  { call with elapsed := 0 }

variable {calls others : List Call}

/-- Calls that do not differ but in their durations. -/
def CallsAlike (calls others : List Call) : Prop :=
  calls.map Call.untimed = others.map Call.untimed

namespace CallsAlike

lemma append {more more' : List Call} (h : CallsAlike calls others)
    (hmore : CallsAlike more more') :
    CallsAlike (calls ++ more) (others ++ more') := by
  simp only [CallsAlike, List.map_append] at h hmore ⊢
  rw [h, hmore]

lemma length_eq (h : CallsAlike calls others) : calls.length = others.length := by
  simpa using congrArg List.length h

lemma eq_nil_iff (h : CallsAlike calls others) : calls = [] ↔ others = [] := by
  rw [← List.length_eq_zero_iff, h.length_eq, List.length_eq_zero_iff]

lemma countP_eq (h : CallsAlike calls others) (p : Bool → Bool) :
    (calls.countP fun call => p call.success) = others.countP fun call => p call.success := by
  have hcount := congrArg (List.countP fun call => p call.success) h
  simpa only [List.countP_map, Function.comp_def, Call.untimed] using hcount

lemma instants_eq (h : CallsAlike calls others) :
    calls.map Call.instant = others.map Call.instant := by
  have hmap := congrArg (List.map Call.instant) h
  simpa only [List.map_map, Function.comp_def, Call.untimed] using hmap

/-- The calls of some tools are alike if all calls are. -/
lemma filter (h : CallsAlike calls others) (p : String → Bool) :
    CallsAlike (calls.filter fun call => p call.tool) (others.filter fun call => p call.tool) := by
  have hfilter := congrArg (List.filter fun call => p call.tool) h
  rwa [List.filter_map, List.filter_map] at hfilter

end CallsAlike

/-! ### Figures -/

/-- Figures that do not differ but in the response times. -/
structure Summary.Alike (a b : Summary) : Prop where
  total : a.total = b.total
  successful : a.successful = b.successful
  failed : a.failed = b.failed
  failureRate : a.failureRate = b.failureRate
  shortest : a.shortest = none ↔ b.shortest = none
  longest : a.longest = none ↔ b.longest = none
  average : a.average = none ↔ b.average = none
  last : a.last = b.last

/-- Reports that do not differ but in the response times. -/
structure Report.Alike (a b : Report) : Prop where
  totals : a.totals.Alike b.totals
  tools : List.Forall₂ (fun entry entry' => entry.1 = entry'.1 ∧ entry.2.Alike entry'.2)
    a.tools b.tools

lemma CallStats.Describes.summary_alike {a b : CallStats} (ha : a.Describes calls)
    (hb : b.Describes others) (h : CallsAlike calls others) : a.summary.Alike b.summary := by
  have htotal : a.total = b.total := by rw [ha.total, hb.total, h.length_eq]
  have hfailed : a.failed = b.failed := by rw [ha.failed, hb.failed, h.countP_eq (!·)]
  constructor
  · exact htotal
  · exact ha.successful.trans ((h.countP_eq id).trans hb.successful.symm)
  · exact hfailed
  · simp only [CallStats.summary, htotal, hfailed]
  · simp only [CallStats.summary, Option.map_eq_none_iff, ha.shortest.eq_none_iff,
      hb.shortest.eq_none_iff, List.map_eq_nil_iff, h.eq_nil_iff]
  · simp only [CallStats.summary, Option.map_eq_none_iff, ha.longest.eq_none_iff,
      hb.longest.eq_none_iff, List.map_eq_nil_iff, h.eq_nil_iff]
  · simp only [CallStats.summary, htotal]
    split_ifs <;> simp
  · have hlast : a.last = b.last :=
      IsGreatestOf.unique (h.instants_eq ▸ ha.last) hb.last
    simp only [CallStats.summary, hlast]

namespace Metrics

/-- Calls whose durations have a sum are accepted. -/
lemma accepts_ofCalls (names : List String) {call : Call}
    (htime : timeOf calls + call.elapsed ≤ longestDuration) :
    (ofCalls names calls).accepts call = true := by
  unfold accepts
  cases hstats : (ofCalls names calls).stats? call.tool with
  | none => rfl
  | some stats =>
    have hknown : call.tool ∈ (ofCalls names calls).toolNames :=
      List.mem_map_of_mem (Table.mem_of_lookup hstats)
    rw [toolNames_ofCalls, mem_toolNames_ofNames] at hknown
    rw [stats?_ofCalls hknown, Option.some.injEq] at hstats
    have hle : timeOf (callsOf call.tool calls) ≤ timeOf calls := timeOf_sublist List.filter_sublist
    have hsum : stats.sum = timeOf (callsOf call.tool calls) := by
      rw [← hstats]
      exact (CallStats.describes_ofCalls
        (hle.trans ((Nat.le_add_right _ _).trans htime))).sum
    simp only [Option.all_some, CallStats.accepts, decide_eq_true_eq, hsum]
    exact (Nat.add_le_add_right hle _).trans htime

lemma exists_report_ofCalls (names : List String) (htime : timeOf calls ≤ longestDuration) :
    ∃ totals : CallStats, (ofCalls names calls).report = .ok ⟨totals.summary,
        (ofNames names).toolNames.map fun tool =>
          (tool, (CallStats.ofCalls (callsOf tool calls)).summary)⟩ ∧
      totals.Describes (callsOfAny names calls) := by
  have hany : timeOf (callsOfAny names calls) ≤ longestDuration :=
    (timeOf_sublist List.filter_sublist).trans htime
  obtain ⟨totals, htotals, hdescribes⟩ := totals_ofCalls hany
  refine ⟨totals, ?_, hdescribes⟩
  simp only [report, reportOf, aggregate, htotals, tools_ofCalls, List.map_map]
  rfl

/-- Calls that are alike have reports, and these are alike too. -/
theorem report_alike (names : List String) (h : CallsAlike calls others)
    (htime : timeOf calls ≤ longestDuration) (htime' : timeOf others ≤ longestDuration) :
    ∃ report report', (ofCalls names calls).report = .ok report ∧
      (ofCalls names others).report = .ok report' ∧ report.Alike report' := by
  obtain ⟨totals, hreport, htotals⟩ := exists_report_ofCalls names htime
  obtain ⟨totals', hreport', htotals'⟩ := exists_report_ofCalls names htime'
  refine ⟨_, _, hreport, hreport', ?_, ?_⟩
  · exact htotals.summary_alike htotals' (h.filter fun tool => tool ∈ names)
  rw [List.forall₂_map_left_iff, List.forall₂_map_right_iff, List.forall₂_same]
  refine fun tool _ => ⟨rfl, ?_⟩
  have hown (calls : List Call) (htime : timeOf calls ≤ longestDuration) :
      (CallStats.ofCalls (callsOf tool calls)).Describes (callsOf tool calls) :=
    CallStats.describes_ofCalls ((timeOf_sublist List.filter_sublist).trans htime)
  exact (hown calls htime).summary_alike (hown others htime') (h.filter fun name => name = tool)

end Metrics

end WorldClock
