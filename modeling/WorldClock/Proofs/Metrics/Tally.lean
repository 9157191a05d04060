import WorldClock.Metrics.Report
import WorldClock.Proofs.Table
import WorldClock.Proofs.Time.Order
/-!
# What metrics say of calls

The statistics of a tool tell of its calls how many there were and how they ended, the shortest and
the longest duration, the sum of the durations, and the last instant (`CallStats.Describes`). Each
call that is counted keeps this true, and so does putting statistics together. The order of calls
does not matter, neither for the single tools nor for all of them together
(`Metrics.tallies_calls`).
-/

namespace WorldClock

/-! ### The least and the greatest of some values -/

section Extremes

variable {α : Type} [LinearOrder α]

/-- The least of some values, which is absent if there are none. -/
def IsLeastOf (values : List α) : Option α → Prop
  | none => values = []
  | some least => IsLeast {value | value ∈ values} least

/-- The greatest of some values, which is absent if there are none. -/
def IsGreatestOf (values : List α) : Option α → Prop
  | none => values = []
  | some greatest => IsGreatest {value | value ∈ values} greatest

variable {values others : List α} {a b : Option α}

lemma isLeastOf_none : IsLeastOf values none ↔ values = [] := Iff.rfl

lemma isLeastOf_some {least : α} :
    IsLeastOf values (some least) ↔ IsLeast {value | value ∈ values} least := Iff.rfl

lemma isGreatestOf_some {greatest : α} :
    IsGreatestOf values (some greatest) ↔ IsGreatest {value | value ∈ values} greatest := Iff.rfl

namespace IsLeastOf

lemma merge (ha : IsLeastOf values a) (hb : IsLeastOf others b) :
    IsLeastOf (values ++ others) (Option.merge min a b) := by
  cases a with
  | none =>
    rw [isLeastOf_none.1 ha, List.nil_append, Option.merge_none_left]
    exact hb
  | some a =>
    cases b with
    | none =>
      rw [isLeastOf_none.1 hb, List.append_nil, Option.merge_none_right]
      exact ha
    | some b =>
      rw [Option.merge_some_some, isLeastOf_some]
      simp only [List.mem_append]
      exact IsLeast.union ha hb

lemma eq_none_iff (ha : IsLeastOf values a) : a = none ↔ values = [] := by
  cases a with
  | none => exact iff_of_true rfl ha
  | some a => simpa using List.ne_nil_of_mem ha.1

lemma unique (ha : IsLeastOf values a) (hb : IsLeastOf values b) : a = b := by
  cases a with
  | none => exact (hb.eq_none_iff.2 ha).symm
  | some a =>
    cases b with
    | none => exact ha.eq_none_iff.2 hb
    | some b => exact congrArg some (IsLeast.unique ha hb)

lemma of_perm (h : values.Perm others) (ha : IsLeastOf values a) : IsLeastOf others a := by
  cases a with
  | none => exact (isLeastOf_none.1 ha ▸ h).nil_eq.symm
  | some a =>
    rw [isLeastOf_some] at ha ⊢
    simpa only [h.mem_iff] using ha

end IsLeastOf

namespace IsGreatestOf

lemma merge (ha : IsGreatestOf values a) (hb : IsGreatestOf others b) :
    IsGreatestOf (values ++ others) (Option.merge max a b) :=
  IsLeastOf.merge (α := αᵒᵈ) ha hb

lemma eq_none_iff (ha : IsGreatestOf values a) : a = none ↔ values = [] :=
  IsLeastOf.eq_none_iff (α := αᵒᵈ) ha

lemma unique (ha : IsGreatestOf values a) (hb : IsGreatestOf values b) : a = b :=
  IsLeastOf.unique (α := αᵒᵈ) ha hb

lemma of_perm (h : values.Perm others) (ha : IsGreatestOf values a) : IsGreatestOf others a :=
  IsLeastOf.of_perm (α := αᵒᵈ) h ha

end IsGreatestOf

end Extremes

/-! ### Statistics of one tool -/

/-- How long calls took together. -/
def timeOf (calls : List Call) : Duration :=
  (calls.map Call.elapsed).sum

@[simp] lemma timeOf_append (calls others : List Call) :
    timeOf (calls ++ others) = timeOf calls + timeOf others := by
  simp [timeOf]

lemma timeOf_sublist {calls others : List Call} (h : calls.Sublist others) :
    timeOf calls ≤ timeOf others :=
  (h.map Call.elapsed).sum_le_sum fun _ _ => Nat.zero_le _

lemma timeOf_perm {calls others : List Call} (h : calls.Perm others) :
    timeOf calls = timeOf others :=
  (h.map Call.elapsed).sum_eq

namespace CallStats

/-- Statistics tell how many calls there were and how they ended. -/
structure Counts (stats : CallStats) (calls : List Call) : Prop where
  total : stats.total = calls.length
  successful : stats.successful = calls.countP fun call => call.success
  failed : stats.failed = calls.countP fun call => !call.success

/-- Statistics tell all that is kept of calls. -/
structure Describes (stats : CallStats) (calls : List Call) : Prop extends stats.Counts calls where
  shortest : IsLeastOf (calls.map Call.elapsed) stats.shortest
  longest : IsGreatestOf (calls.map Call.elapsed) stats.longest
  sum : stats.sum = timeOf calls
  last : IsGreatestOf (calls.map Call.instant) stats.last

variable {stats a b both : CallStats} {calls others : List Call}

/-- The statistics of calls, one after another. -/
def ofCalls (calls : List Call) : CallStats :=
  calls.foldl CallStats.record .empty

lemma ofCalls_concat (calls : List Call) (call : Call) :
    ofCalls (calls ++ [call]) = (ofCalls calls).record call := by
  simp [ofCalls]

/-- Whatever the durations are, calls are counted. -/
lemma counts_ofCalls (calls : List Call) : (ofCalls calls).Counts calls := by
  induction calls using List.reverseRecOn with
  | nil => exact ⟨rfl, rfl, rfl⟩
  | append_singleton calls call ih =>
    rw [ofCalls_concat]
    constructor
    · simp [CallStats.record, ih.total]
    · cases h : call.success <;> simp [CallStats.record, ih.successful, h]
    · cases h : call.success <;> simp [CallStats.record, ih.failed, h]

namespace Describes

lemma unique (ha : a.Describes calls) (hb : b.Describes calls) : a = b := by
  apply CallStats.ext
  · rw [ha.total, hb.total]
  · rw [ha.successful, hb.successful]
  · rw [ha.failed, hb.failed]
  · exact ha.shortest.unique hb.shortest
  · exact ha.longest.unique hb.longest
  · rw [ha.sum, hb.sum]
  · exact ha.last.unique hb.last

lemma of_perm (h : calls.Perm others) (hstats : stats.Describes calls) :
    stats.Describes others where
  total := hstats.total.trans h.length_eq
  successful := hstats.successful.trans (h.countP_eq _)
  failed := hstats.failed.trans (h.countP_eq _)
  shortest := hstats.shortest.of_perm (h.map _)
  longest := hstats.longest.of_perm (h.map _)
  sum := hstats.sum.trans (timeOf_perm h)
  last := hstats.last.of_perm (h.map _)

/-- What two groups of calls give together tells of the calls of both. -/
lemma merge (ha : a.Describes calls) (hb : b.Describes others)
    (htime : timeOf (calls ++ others) ≤ longestDuration) :
    ∃ both, a.merge b = .ok both ∧ both.Describes (calls ++ others) := by
  have hsum : a.sum + b.sum = timeOf (calls ++ others) := by
    rw [ha.sum, hb.sum, timeOf_append]
  refine ⟨_, by rw [CallStats.merge, if_pos (hsum ▸ htime)], ⟨?_, ?_, ?_⟩, ?_, ?_, ?_, ?_⟩
  · simp [ha.total, hb.total]
  · simp [ha.successful, hb.successful]
  · simp [ha.failed, hb.failed]
  · rw [List.map_append]
    exact ha.shortest.merge hb.shortest
  · rw [List.map_append]
    exact ha.longest.merge hb.longest
  · exact hsum
  · rw [List.map_append, show Instant.latest = max from funext₂ Instant.latest_eq_max]
    exact ha.last.merge hb.last

end Describes

/-- The statistics of one call. -/
def single (call : Call) : CallStats where
  total := 1
  successful := if call.success then 1 else 0
  failed := if call.success then 0 else 1
  shortest := some call.elapsed
  longest := some call.elapsed
  sum := call.elapsed
  last := some call.instant

lemma describes_single (call : Call) : (single call).Describes [call] where
  total := rfl
  successful := by cases h : call.success <;> simp [single, h]
  failed := by cases h : call.success <;> simp [single, h]
  shortest := by simp [single, isLeastOf_some]
  longest := by simp [single, isGreatestOf_some]
  sum := by simp [single, timeOf]
  last := by simp [single, isGreatestOf_some]

/-- To count a call is to put its statistics to those of the others. -/
lemma merge_single {call : Call} (h : stats.sum + call.elapsed ≤ longestDuration) :
    stats.merge (single call) = .ok (stats.record call) := by
  have haccepts : stats.accepts call = true := decide_eq_true h
  have hmerge {α : Type} (op : α → α → α) (held : Option α) (value : α) :
      Option.merge op held (some value) = some ((held.map (op · value)).getD value) := by
    cases held <;> rfl
  simp only [CallStats.merge, single, h, if_true, CallStats.record, haccepts, hmerge]
  cases call.success <;> rfl

lemma Describes.record {call : Call} (h : stats.Describes calls)
    (htime : timeOf (calls ++ [call]) ≤ longestDuration) :
    (stats.record call).Describes (calls ++ [call]) := by
  obtain ⟨both, hmerge, hboth⟩ := h.merge (describes_single call) htime
  have hsum : stats.sum + call.elapsed ≤ longestDuration := by
    rw [timeOf_append] at htime
    simpa [h.sum, timeOf] using htime
  rw [merge_single hsum] at hmerge
  cases hmerge
  exact hboth

/-- As long as their durations have a sum, calls are described by what is kept of them. -/
lemma describes_ofCalls (htime : timeOf calls ≤ longestDuration) :
    (ofCalls calls).Describes calls := by
  induction calls using List.reverseRecOn with
  | nil => exact ⟨⟨rfl, rfl, rfl⟩, rfl, rfl, rfl, rfl⟩
  | append_singleton calls call ih =>
    rw [ofCalls_concat]
    have hle : timeOf calls ≤ longestDuration :=
      (timeOf_sublist (List.sublist_append_left _ _)).trans htime
    exact (ih hle).record htime

lemma ofCalls_perm (h : calls.Perm others) (htime : timeOf calls ≤ longestDuration) :
    ofCalls calls = ofCalls others :=
  ((describes_ofCalls htime).of_perm h).unique (describes_ofCalls (timeOf_perm h ▸ htime))

end CallStats

/-! ### Statistics of all tools -/

/-- The calls of a tool. -/
def callsOf (tool : String) (calls : List Call) : List Call :=
  calls.filter fun call => call.tool = tool

/-- The calls of tools that are known by name. -/
def callsOfAny (names : List String) (calls : List Call) : List Call :=
  calls.filter fun call => call.tool ∈ names

lemma callsOf_sublist {tool : String} {names : List String} (h : tool ∈ names)
    (calls : List Call) : (callsOf tool calls).Sublist (callsOfAny names calls) := by
  apply List.monotone_filter_right
  intro call hcall
  simp only [decide_eq_true_eq] at hcall ⊢
  exact hcall ▸ h

lemma callsOf_callsOfAny {tool : String} {names : List String} (h : tool ∈ names)
    (calls : List Call) : callsOf tool (callsOfAny names calls) = callsOf tool calls := by
  rw [callsOf, callsOfAny, List.filter_filter]
  apply List.filter_congr
  intro call _
  by_cases heq : call.tool = tool <;> simp [heq, h]

lemma callsOfAny_cons {tool : String} {names : List String} (h : tool ∉ names) (calls : List Call) :
    (callsOfAny (tool :: names) calls).filter (fun call => !decide (call.tool = tool)) =
      callsOfAny names calls := by
  rw [callsOfAny, List.filter_filter]
  apply List.filter_congr
  intro call _
  by_cases heq : call.tool = tool <;> simp [heq, h]

/-- The calls of one tool after another are the calls of all of them in another order. -/
lemma flatMap_callsOf_perm {names : List String} (h : names.Nodup) (calls : List Call) :
    (names.flatMap fun tool => callsOf tool calls).Perm (callsOfAny names calls) := by
  induction names with
  | nil => simp [callsOfAny]
  | cons tool names ih =>
    obtain ⟨htool, hnames⟩ := List.nodup_cons.1 h
    calc (tool :: names).flatMap (fun tool => callsOf tool calls)
        = callsOf tool calls ++ names.flatMap fun tool => callsOf tool calls := List.flatMap_cons
      _ |>.Perm (callsOf tool calls ++ callsOfAny names calls) := (ih hnames).append_left _
      _ = callsOf tool (callsOfAny (tool :: names) calls) ++
            (callsOfAny (tool :: names) calls).filter fun call => !decide (call.tool = tool) := by
        rw [callsOf_callsOfAny List.mem_cons_self, callsOfAny_cons htool]
      _ |>.Perm (callsOfAny (tool :: names) calls) := List.filter_append_perm _ _

/-- A call as a call of another tool. -/
def Call.to (call : Call) (tool : String) : Call :=
  { call with tool }

lemma callsOf_map_to (tool : String) (calls : List Call) :
    callsOf tool (calls.map (·.to tool)) = calls.map (·.to tool) := by
  simp [callsOf, Call.to]

/-- The name of the tool makes no difference to its statistics. -/
lemma CallStats.ofCalls_map_to (tool : String) (calls : List Call) :
    ofCalls (calls.map (·.to tool)) = ofCalls calls :=
  List.foldl_map

namespace Metrics

variable {metrics : Metrics} {names : List String} {calls : List Call} {call : Call}

/-- The names of the tools whose calls are counted. -/
def toolNames (metrics : Metrics) : List String :=
  metrics.tools.map Prod.fst

lemma tools_record (metrics : Metrics) (call : Call) :
    (metrics.record call).tools =
      Table.update call.tool (fun stats => stats.record call) metrics.tools := rfl

lemma mem_toolNames_ofNames {name : String} : name ∈ (ofNames names).toolNames ↔ name ∈ names := by
  rw [toolNames, ofNames, Table.mem_names_ofList, List.map_map]
  simp [Function.comp_def]

lemma nodup_toolNames_ofNames (names : List String) : (ofNames names).toolNames.Nodup :=
  Table.nodup_names_ofList _

/-- A call of a tool that is not known by name is not counted. -/
lemma record_of_notMem (h : call.tool ∉ metrics.toolNames) : metrics.record call = metrics := by
  rw [record, Table.update_of_notMem h]

/-- The metrics of calls, one after another. -/
def ofCalls (names : List String) (calls : List Call) : Metrics :=
  calls.foldl record (ofNames names)

lemma ofCalls_concat (names : List String) (calls : List Call) (call : Call) :
    ofCalls names (calls ++ [call]) = (ofCalls names calls).record call := by
  simp [ofCalls]

/-- The calls of a tool alone decide on its statistics. -/
lemma tools_ofCalls (names : List String) (calls : List Call) :
    (ofCalls names calls).tools =
      (ofNames names).toolNames.map fun tool => (tool, .ofCalls (callsOf tool calls)) := by
  induction calls using List.reverseRecOn with
  | nil =>
    rw [toolNames, List.map_map]
    refine (List.map_id _).symm.trans (List.map_congr_left fun entry hentry => ?_)
    obtain ⟨tool, -, rfl⟩ := List.mem_map.1 (Table.mem_of_mem_ofList hentry)
    rfl
  | append_singleton calls call ih =>
    rw [ofCalls_concat, tools_record, ih, Table.update, List.map_map]
    apply List.map_congr_left
    intro tool _
    by_cases h : call.tool = tool
    · simp [callsOf, h, CallStats.ofCalls_concat]
    · simp [callsOf, h, Ne.symm h]

@[simp] lemma toolNames_ofCalls (names : List String) (calls : List Call) :
    (ofCalls names calls).toolNames = (ofNames names).toolNames := by
  rw [toolNames, tools_ofCalls, List.map_map]
  exact List.map_id _

lemma stats?_ofCalls {tool : String} (h : tool ∈ names) (calls : List Call) :
    (ofCalls names calls).stats? tool = some (.ofCalls (callsOf tool calls)) := by
  have htool : tool ∈ (ofCalls names calls).toolNames := by
    rwa [toolNames_ofCalls, mem_toolNames_ofNames]
  obtain ⟨stats, hstats⟩ := Table.exists_lookup htool
  have hmem := Table.mem_of_lookup hstats
  rw [tools_ofCalls] at hmem
  obtain ⟨_, -, heq⟩ := List.mem_map.1 hmem
  cases heq
  exact hstats

lemma timeOf_callsOf_le {tool : String} (h : tool ∈ names)
    (htime : timeOf (callsOfAny names calls) ≤ longestDuration) :
    timeOf (callsOf tool calls) ≤ longestDuration :=
  (timeOf_sublist (callsOf_sublist h calls)).trans htime

lemma ofCalls_perm {order : List Call} (hperm : calls.Perm order)
    (htime : timeOf (callsOfAny names calls) ≤ longestDuration) :
    ofCalls names calls = ofCalls names order := by
  have htools : (ofCalls names calls).tools = (ofCalls names order).tools := by
    rw [tools_ofCalls, tools_ofCalls]
    apply List.map_congr_left
    intro tool htool
    have hown : (callsOf tool calls).Perm (callsOf tool order) := hperm.filter _
    rw [CallStats.ofCalls_perm hown (timeOf_callsOf_le (mem_toolNames_ofNames.1 htool) htime)]
  exact congrArg Metrics.mk htools

/-- The statistics of one tool after another tell together of the calls of all these tools. -/
lemma describes_foldlM_merge (entries : List (String × CallStats)) {done : CallStats}
    {seen : List Call} (hdone : done.Describes seen)
    (hentries : ∀ entry ∈ entries, entry.2.Describes (callsOf entry.1 calls))
    (htime : timeOf (seen ++ entries.flatMap fun entry => callsOf entry.1 calls) ≤
      longestDuration) :
    ∃ both, entries.foldlM (fun done entry => done.merge entry.2) done = .ok both ∧
      both.Describes (seen ++ entries.flatMap fun entry => callsOf entry.1 calls) := by
  induction entries generalizing done seen with
  | nil => exact ⟨done, rfl, by simpa using hdone⟩
  | cons entry entries ih =>
    rw [List.flatMap_cons, ← List.append_assoc] at htime ⊢
    obtain ⟨hentry, hrest⟩ := List.forall_mem_cons.1 hentries
    obtain ⟨both, hmerge, hboth⟩ := hdone.merge hentry
      ((timeOf_sublist (List.sublist_append_left _ _)).trans htime)
    rw [List.foldlM_cons, hmerge]
    exact ih hboth hrest htime

lemma totals_ofCalls (htime : timeOf (callsOfAny names calls) ≤ longestDuration) :
    ∃ totals, (ofCalls names calls).totals = .ok totals ∧
      totals.Describes (callsOfAny names calls) := by
  have hflat : ((ofCalls names calls).tools.flatMap fun entry => callsOf entry.1 calls) =
      (ofNames names).toolNames.flatMap fun tool => callsOf tool calls := by
    rw [tools_ofCalls, List.flatMap_map]
  have hperm : ((ofNames names).toolNames.flatMap fun tool => callsOf tool calls).Perm
      (callsOfAny names calls) := by
    simpa only [callsOfAny, mem_toolNames_ofNames] using
      flatMap_callsOf_perm (nodup_toolNames_ofNames names) calls
  have hdescribes : ∀ entry ∈ (ofCalls names calls).tools,
      entry.2.Describes (callsOf entry.1 calls) := by
    intro entry hentry
    rw [tools_ofCalls] at hentry
    obtain ⟨tool, htool, rfl⟩ := List.mem_map.1 hentry
    exact CallStats.describes_ofCalls (timeOf_callsOf_le (mem_toolNames_ofNames.1 htool) htime)
  obtain ⟨totals, htotals, hboth⟩ := describes_foldlM_merge (ofCalls names calls).tools
    (CallStats.describes_ofCalls (Nat.zero_le _)) hdescribes
    (by rwa [List.nil_append, hflat, timeOf_perm hperm])
  rw [List.nil_append, hflat] at hboth
  exact ⟨totals, htotals, hboth.of_perm hperm⟩

/-- Metrics tell of each tool the truth about its calls, and of all tools together what one tool
would have if all the calls were its own. Calls of other tools do not count, and the order of the
calls does not matter. -/
theorem tallies_calls (names : List String) (calls : List Call)
    (htime : timeOf (callsOfAny names calls) ≤ longestDuration) :
    let metrics := ofCalls names calls
    (∀ tool ∈ names, ∃ stats, metrics.stats? tool = some stats ∧
        stats.Describes (callsOf tool calls) ∧
        (stats.shortest = none ↔ callsOf tool calls = []) ∧
        (stats.longest = none ↔ callsOf tool calls = []) ∧
        (stats.last = none ↔ callsOf tool calls = [])) ∧
      (∀ call : Call, call.tool ∉ names → metrics.record call = metrics) ∧
      (∃ totals, metrics.aggregate = .ok totals ∧
        ∀ (tool : String) (order : List Call), order.Perm (callsOfAny names calls) →
          (ofCalls [tool] (order.map (·.to tool))).summary? tool = some totals) ∧
      ∃ report, ∀ order : List Call, order.Perm calls →
        (ofCalls names order).report = .ok report := by
  intro metrics
  obtain ⟨totals, htotals, hdescribes⟩ := totals_ofCalls htime
  have haggregate : metrics.aggregate = .ok totals.summary := by
    rw [aggregate, htotals]
    rfl
  refine ⟨?_, ?_, ?_, ?_⟩
  · intro tool htool
    have hown := CallStats.describes_ofCalls (timeOf_callsOf_le htool htime)
    refine ⟨_, stats?_ofCalls htool calls, hown, ?_, ?_, ?_⟩
    · rw [hown.shortest.eq_none_iff, List.map_eq_nil_iff]
    · rw [hown.longest.eq_none_iff, List.map_eq_nil_iff]
    · rw [hown.last.eq_none_iff, List.map_eq_nil_iff]
  · intro call hcall
    apply record_of_notMem
    rwa [toolNames_ofCalls, mem_toolNames_ofNames]
  · refine ⟨totals.summary, haggregate, fun tool order hperm => ?_⟩
    have horder : (CallStats.ofCalls order).Describes order :=
      CallStats.describes_ofCalls (timeOf_perm hperm ▸ htime)
    have hsame : CallStats.ofCalls order = totals :=
      horder.unique (hdescribes.of_perm hperm.symm)
    rw [summary?, stats?_ofCalls (List.mem_singleton_self tool), callsOf_map_to,
      CallStats.ofCalls_map_to, hsame]
    rfl
  · obtain ⟨report, hreport⟩ : ∃ report, metrics.report = .ok report := by
      rw [Metrics.report, reportOf, haggregate]
      exact ⟨_, rfl⟩
    refine ⟨report, fun order hperm => ?_⟩
    rw [← ofCalls_perm hperm.symm htime, hreport]

/-- The later of two calls may be counted first, and a call of an unknown tool does not count. -/
theorem tallies_calls_backwards :
    let moment (second : Fin 60) : Instant :=
      ⟨second, 0, by constructor <;> simp only [firstSecond, lastSecond] <;> omega, by decide⟩
    let calls : List Call := [
      ⟨"a", 100000000, true, moment 5⟩, ⟨"a", 300000000, false, moment 1⟩,
      ⟨"b", 50000000, true, moment 3⟩, ⟨"nope", 1000000, false, moment 9⟩]
    timeOf (callsOfAny ["b", "a"] calls) ≤ longestDuration ∧
      ∃ stats, (ofCalls ["b", "a"] calls).stats? "a" = some stats ∧
        stats.Describes (calls.take 2) ∧ stats.last = some (moment 5) := by
  intro moment calls
  have htime : timeOf (callsOfAny ["b", "a"] calls) ≤ longestDuration := by decide
  obtain ⟨stats, hstats, hdescribes, -⟩ :=
    (tallies_calls ["b", "a"] calls htime).1 "a" (by decide)
  refine ⟨htime, stats, hstats, hdescribes, hdescribes.last.unique ?_⟩
  refine isGreatestOf_some.2 ⟨.head _, ?_⟩
  rintro instant (_ | ⟨_, _ | ⟨_, h⟩⟩)
  · exact le_rfl
  · exact Instant.le_of_seconds_lt (by decide)
  · cases h

end Metrics

end WorldClock
