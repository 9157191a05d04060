import WorldClock.Proofs.Metrics.Tally
import WorldClock.Proofs.Outcome
/-!
# Reports among calls

Whoever reports on the metrics looks at them twice, first at the single tools and then at all of
them together, and calls can be counted in between. The figures of all tools then exceed those of
the single tools by the calls that were missed, and add up exactly if there was none
(`SharedMetrics.addsUp_iff`).
-/

namespace WorldClock

/-! ### Ways of counting -/

/-- The ways in which calls are counted. -/
inductive Count
  | all | successful | failed

/-- Whether a call counts. -/
def Count.counts : Count → Call → Bool
  | all, _ => true
  | successful, call => call.success
  | failed, call => !call.success

/-- How many calls there were. -/
def CallStats.count (stats : CallStats) : Count → Nat
  | .all => stats.total
  | .successful => stats.successful
  | .failed => stats.failed

/-- How many calls the figures tell of. -/
def Summary.count (summary : Summary) : Count → Nat
  | .all => summary.total
  | .successful => summary.successful
  | .failed => summary.failed

namespace CallStats

@[simp] lemma count_summary (stats : CallStats) (kind : Count) :
    stats.summary.count kind = stats.count kind := by
  cases kind <;> rfl

lemma count_empty (kind : Count) : empty.count kind = 0 := by
  cases kind <;> rfl

lemma count_ofCalls (calls : List Call) (kind : Count) :
    (ofCalls calls).count kind = calls.countP kind.counts := by
  obtain ⟨htotal, hsuccessful, hfailed⟩ := counts_ofCalls calls
  cases kind with
  | all => exact htotal.trans (List.countP_eq_length.2 fun _ _ => rfl).symm
  | successful => exact hsuccessful
  | failed => exact hfailed

lemma count_of_merge {a b both : CallStats} (h : a.merge b = .ok both) (kind : Count) :
    both.count kind = a.count kind + b.count kind := by
  unfold merge at h
  split_ifs at h
  cases h
  cases kind <;> rfl

end CallStats

namespace Metrics

variable {metrics : Metrics} {totals : CallStats} {names : List String} {calls more : List Call}

lemma count_of_foldlM_merge {entries : List (String × CallStats)} {done both : CallStats}
    (h : entries.foldlM (fun done entry => done.merge entry.2) done = .ok both) (kind : Count) :
    both.count kind = done.count kind + (entries.map fun entry => entry.2.count kind).sum := by
  induction entries generalizing done with
  | nil =>
    cases h
    rfl
  | cons entry entries ih =>
    rw [List.foldlM_cons] at h
    cases hmerge : done.merge entry.2 with
    | error cause =>
      rw [hmerge] at h
      cases h
    | ok next =>
      rw [hmerge] at h
      rw [ih h, CallStats.count_of_merge hmerge, List.map_cons, List.sum_cons, Nat.add_assoc]

/-- At one moment the figures add up. -/
lemma count_of_totals (h : metrics.totals = .ok totals) (kind : Count) :
    totals.count kind = (metrics.tools.map fun entry => entry.2.count kind).sum := by
  rw [count_of_foldlM_merge h, CallStats.count_empty, Nat.zero_add]

/-- The single tools count together the calls of all of them. -/
lemma sum_count_ofCalls (names : List String) (calls : List Call) (kind : Count) :
    ((ofCalls names calls).tools.map fun entry => entry.2.count kind).sum =
      (callsOfAny names calls).countP kind.counts := by
  have hknown : callsOfAny (ofNames names).toolNames calls = callsOfAny names calls := by
    simp only [callsOfAny, mem_toolNames_ofNames]
  rw [tools_ofCalls, List.map_map]
  calc ((ofNames names).toolNames.map fun tool =>
          (CallStats.ofCalls (callsOf tool calls)).count kind).sum
      = ((ofNames names).toolNames.map fun tool =>
          (callsOf tool calls).countP kind.counts).sum := by simp only [CallStats.count_ofCalls]
    _ = ((ofNames names).toolNames.flatMap fun tool => callsOf tool calls).countP kind.counts :=
        List.countP_flatMap.symm
    _ = (callsOfAny (ofNames names).toolNames calls).countP kind.counts :=
        (flatMap_callsOf_perm (nodup_toolNames_ofNames names) calls).countP_eq _
    _ = (callsOfAny names calls).countP kind.counts := by rw [hknown]

/-- Calls of unknown tools leave no trace. -/
lemma ofCalls_append_of_unknown (h : callsOfAny names more = []) :
    ofCalls names (calls ++ more) = ofCalls names calls := by
  have htools : (ofCalls names (calls ++ more)).tools = (ofCalls names calls).tools := by
    rw [tools_ofCalls, tools_ofCalls]
    refine List.map_congr_left fun tool htool => ?_
    have hnone : callsOf tool more = [] :=
      List.sublist_nil.1 (h ▸ callsOf_sublist (mem_toolNames_ofNames.1 htool) more)
    rw [callsOf, List.filter_append, ← callsOf, ← callsOf, hnone, List.append_nil]
  exact congrArg Metrics.mk htools

/-- A report tells of the single tools what was counted before the first look. The figures of all
tools have more than that by the calls between the two looks. -/
lemma count_of_reportOf {report : Report}
    (h : reportOf (ofCalls names calls) (ofCalls names (calls ++ more)) = .ok report) :
    report.tools = (ofCalls names calls).tools.map (fun (name, stats) => (name, stats.summary)) ∧
      ∀ kind, (report.tools.map fun entry => entry.2.count kind).sum =
          (callsOfAny names calls).countP kind.counts ∧
        report.totals.count kind =
          (report.tools.map fun entry => entry.2.count kind).sum +
            (callsOfAny names more).countP kind.counts := by
  unfold reportOf aggregate at h
  obtain ⟨_, hsummary, rfl⟩ := map_eq_ok_iff.1 h
  obtain ⟨totals, htotals, rfl⟩ := map_eq_ok_iff.1 hsummary
  refine ⟨rfl, fun kind => ?_⟩
  have hsum : (((ofCalls names calls).tools.map fun (name, stats) =>
      (name, stats.summary)).map fun entry => entry.2.count kind).sum =
        (callsOfAny names calls).countP kind.counts := by
    rw [← sum_count_ofCalls, List.map_map]
    simp [Function.comp_def]
  have happend : callsOfAny names (calls ++ more) =
      callsOfAny names calls ++ callsOfAny names more := List.filter_append _ _
  refine ⟨hsum, ?_⟩
  rw [hsum, CallStats.count_summary, count_of_totals htotals, sum_count_ofCalls, happend,
    List.countP_append]

end Metrics

/-- The figures of all tools together are the sums of those of the single tools. -/
structure Report.AddsUp (report : Report) : Prop where
  total : report.totals.total = (report.tools.map fun entry => entry.2.total).sum
  successful : report.totals.successful = (report.tools.map fun entry => entry.2.successful).sum
  failed : report.totals.failed = (report.tools.map fun entry => entry.2.failed).sum

/-! ### Accesses -/

/-- What is done with shared metrics without an interruption: a call is counted, or one who reports
looks at the single tools, or concludes the report with a look at all of them together. -/
inductive Access
  | record (call : Call)
  | look (reader : Nat)
  | conclude (reader : Nat)

/-- The call that is counted. -/
def Access.call? : Access → Option Call
  | record call => some call
  | _ => none

/-- Who looks at the metrics. -/
def Access.reader? : Access → Option Nat
  | record _ => none
  | look reader => some reader
  | conclude reader => some reader

/-- The calls that are counted, one after another. -/
def recorded (accesses : List Access) : List Call :=
  accesses.filterMap Access.call?

lemma recorded_append (accesses more : List Access) :
    recorded (accesses ++ more) = recorded accesses ++ recorded more :=
  List.filterMap_append

/-- Metrics that are shared: what is kept now, what those who are about to report have seen of the
single tools, and the reports so far. -/
structure SharedMetrics where
  metrics : Metrics
  seen : Nat → Option Metrics
  reports : List (Nat × Report)

namespace SharedMetrics

/-- Shared metrics before any access. -/
def start (names : List String) : SharedMetrics :=
  ⟨.ofNames names, fun _ => none, []⟩

/-- A reader that has seen the single tools looks at all of them together. No report comes of
durations that have no sum. -/
def conclude (shared : SharedMetrics) (reader : Nat) : SharedMetrics :=
  match shared.seen reader with
  | none => shared
  | some single => {
      shared with
      seen := Function.update shared.seen reader none
      reports :=
        match Metrics.reportOf single shared.metrics with
        | .ok report => (reader, report) :: shared.reports
        | .error _ => shared.reports }

/-- The next access. -/
def step (shared : SharedMetrics) : Access → SharedMetrics
  | .record call => { shared with metrics := shared.metrics.record call }
  | .look reader =>
    { shared with seen := Function.update shared.seen reader (some shared.metrics) }
  | .conclude reader => shared.conclude reader

/-- Shared metrics after accesses in some order. -/
def run (names : List String) (accesses : List Access) : SharedMetrics :=
  accesses.foldl step (start names)

lemma run_concat (names : List String) (accesses : List Access) (access : Access) :
    run names (accesses ++ [access]) = (run names accesses).step access := by
  simp [run]

/-- The last look of a reader, with all accesses before it and since. -/
structure LastLook (reader : Nat) (earlier since accesses : List Access) : Prop where
  split : accesses = earlier ++ .look reader :: since
  apart : ∀ access ∈ since, access.reader? ≠ some reader

/-- What shared metrics say of the accesses so far. -/
structure Follows (names : List String) (accesses : List Access) (shared : SharedMetrics) :
    Prop where
  metrics : shared.metrics = .ofCalls names (recorded accesses)
  seen : ∀ reader single, shared.seen reader = some single →
    ∃ earlier since, LastLook reader earlier since accesses ∧
      single = .ofCalls names (recorded earlier)
  reports : ∀ reader report, (reader, report) ∈ shared.reports →
    ∃ earlier since later,
      accesses = earlier ++ .look reader :: (since ++ .conclude reader :: later) ∧
      (∀ access ∈ since, access.reader? ≠ some reader) ∧
      Metrics.reportOf (.ofCalls names (recorded earlier))
        (.ofCalls names (recorded (earlier ++ since))) = .ok report

variable {names : List String} {accesses earlier since : List Access} {access : Access}
  {shared : SharedMetrics} {reader : Nat} {report : Report}

lemma LastLook.concat (h : LastLook reader earlier since accesses)
    (haccess : access.reader? ≠ some reader) :
    LastLook reader earlier (since ++ [access]) (accesses ++ [access]) where
  split := by rw [h.split, List.append_assoc, List.cons_append]
  apart := by
    rw [List.forall_mem_append]
    exact ⟨h.apart, List.forall_mem_singleton.2 haccess⟩

lemma LastLook.recorded_eq (h : LastLook reader earlier since accesses) :
    recorded accesses = recorded (earlier ++ since) := by
  rw [h.split, recorded_append, recorded_append]
  rfl

/-- Reports stay explained by what was before them. -/
lemma Follows.reports_concat (h : shared.Follows names accesses) (access : Access)
    (hreport : (reader, report) ∈ shared.reports) :
    ∃ earlier since later,
      accesses ++ [access] = earlier ++ .look reader :: (since ++ .conclude reader :: later) ∧
      (∀ access ∈ since, access.reader? ≠ some reader) ∧
      Metrics.reportOf (.ofCalls names (recorded earlier))
        (.ofCalls names (recorded (earlier ++ since))) = .ok report := by
  obtain ⟨earlier, since, later, rfl, hapart, hreports⟩ := h.reports reader report hreport
  exact ⟨earlier, since, later ++ [access], by simp, hapart, hreports⟩

lemma follows_start (names : List String) : (start names).Follows names [] where
  metrics := rfl
  seen := fun _ _ hseen => by cases hseen
  reports := fun _ _ hreport => by cases hreport

lemma Follows.record (h : shared.Follows names accesses) (call : Call) :
    (shared.step (.record call)).Follows names (accesses ++ [.record call]) where
  metrics := by
    rw [recorded_append]
    exact (congrArg (Metrics.record · call) h.metrics).trans (Metrics.ofCalls_concat _ _ _).symm
  seen := by
    intro reader single hseen
    obtain ⟨earlier, since, hlook, hsingle⟩ := h.seen reader single hseen
    exact ⟨earlier, _, hlook.concat (by simp [Access.reader?]), hsingle⟩
  reports := fun _ _ => h.reports_concat _

lemma Follows.look (h : shared.Follows names accesses) (reader : Nat) :
    (shared.step (.look reader)).Follows names (accesses ++ [.look reader]) where
  metrics := by
    rw [recorded_append]
    exact h.metrics.trans (congrArg _ (List.append_nil _).symm)
  seen := by
    intro other single hseen
    simp only [step, Function.update_apply] at hseen
    split_ifs at hseen with hother
    · cases hseen
      cases hother
      exact ⟨accesses, [], ⟨rfl, by simp⟩, h.metrics⟩
    · obtain ⟨earlier, since, hlook, hsingle⟩ := h.seen other single hseen
      exact ⟨earlier, _, hlook.concat (by simpa [Access.reader?] using Ne.symm hother), hsingle⟩
  reports := fun _ _ => h.reports_concat _

lemma Follows.conclude (h : shared.Follows names accesses) (reader : Nat) :
    (shared.step (.conclude reader)).Follows names (accesses ++ [.conclude reader]) := by
  have hmetrics : Metrics.ofCalls names (recorded (accesses ++ [.conclude reader])) =
      .ofCalls names (recorded accesses) := by
    rw [recorded_append]
    exact congrArg _ (List.append_nil _)
  have hothers : ∀ other single, other ≠ reader → shared.seen other = some single →
      ∃ earlier since, LastLook other earlier since (accesses ++ [.conclude reader]) ∧
        single = .ofCalls names (recorded earlier) := by
    intro other single hother hseen
    obtain ⟨earlier, since, hlook, hsingle⟩ := h.seen other single hseen
    exact ⟨earlier, _, hlook.concat (by simpa [Access.reader?] using Ne.symm hother), hsingle⟩
  change (shared.conclude reader).Follows names _
  unfold SharedMetrics.conclude
  split
  · next hnone =>
    refine ⟨h.metrics.trans hmetrics.symm, ?_, fun _ _ => h.reports_concat _⟩
    intro other single hseen
    refine hothers other single ?_ hseen
    rintro rfl
    cases hnone.symm.trans hseen
  · next single hsingle =>
    obtain ⟨earlier, since, hlook, rfl⟩ := h.seen reader single hsingle
    refine ⟨h.metrics.trans hmetrics.symm, ?_, ?_⟩
    · intro other single hseen
      simp only [Function.update_apply] at hseen
      split_ifs at hseen with hother
      exact hothers other single hother hseen
    · intro other report hreport
      dsimp only at hreport
      split at hreport
      · next new hnew =>
        rcases List.mem_cons.1 hreport with heq | hreport
        · cases heq
          rw [h.metrics, hlook.recorded_eq] at hnew
          exact ⟨earlier, since, [], by simp [hlook.split], hlook.apart, hnew⟩
        · exact h.reports_concat _ hreport
      · exact h.reports_concat _ hreport

lemma Follows.step (h : shared.Follows names accesses) (access : Access) :
    (shared.step access).Follows names (accesses ++ [access]) := by
  cases access with
  | record call => exact h.record call
  | look reader => exact h.look reader
  | conclude reader => exact h.conclude reader

lemma follows_run (names : List String) (accesses : List Access) :
    (run names accesses).Follows names accesses := by
  induction accesses using List.reverseRecOn with
  | nil => exact follows_start names
  | append_singleton accesses access ih =>
    rw [run_concat]
    exact ih.step access

/-- Who has looked at the single tools gets a report, as long as the durations have a sum. -/
lemma exists_mem_reports {single : Metrics} (hseen : (run names accesses).seen reader = some single)
    (htime : timeOf (callsOfAny names (recorded accesses)) ≤ longestDuration) :
    ∃ report, (reader, report) ∈ (run names (accesses ++ [.conclude reader])).reports ∧
      Metrics.reportOf single (.ofCalls names (recorded accesses)) = .ok report := by
  obtain ⟨totals, htotals, -⟩ := Metrics.totals_ofCalls htime
  obtain ⟨report, hreport⟩ : ∃ report,
      Metrics.reportOf single (.ofCalls names (recorded accesses)) = .ok report := by
    rw [Metrics.reportOf, Metrics.aggregate, htotals]
    exact ⟨_, rfl⟩
  refine ⟨report, ?_, hreport⟩
  rw [run_concat]
  change _ ∈ ((run names accesses).conclude reader).reports
  simp only [SharedMetrics.conclude, hseen, (follows_run names accesses).metrics, hreport]
  exact .head _

/-! ### What a report misses -/

/-- A report among calls tells of the single tools what was counted before, and of all of them
together also what was counted in between. -/
theorem addsUp_iff (h : (reader, report) ∈ (run names accesses).reports) :
    ∃ earlier since later,
      accesses = earlier ++ .look reader :: (since ++ .conclude reader :: later) ∧
      (∀ access ∈ since, access.reader? ≠ some reader) ∧
      let missed := callsOfAny names (recorded since)
      report.tools = (Metrics.ofCalls names (recorded earlier)).tools.map
          (fun (name, stats) => (name, stats.summary)) ∧
        report.totals.total =
          (report.tools.map fun entry => entry.2.total).sum + missed.length ∧
        report.totals.successful = (report.tools.map fun entry => entry.2.successful).sum +
          missed.countP (fun call => call.success) ∧
        report.totals.failed = (report.tools.map fun entry => entry.2.failed).sum +
          missed.countP (fun call => !call.success) ∧
        (report.AddsUp ↔ missed = []) ∧
        (missed = [] → (Metrics.ofCalls names (recorded earlier)).report = .ok report) := by
  obtain ⟨earlier, since, later, hsplit, hapart, hreport⟩ :=
    (follows_run names accesses).reports reader report h
  refine ⟨earlier, since, later, hsplit, hapart, ?_⟩
  intro missed
  rw [recorded_append] at hreport
  obtain ⟨htools, hcount⟩ := Metrics.count_of_reportOf hreport
  have htotal : report.totals.total =
      (report.tools.map fun entry => entry.2.total).sum + missed.length :=
    (hcount .all).2.trans (congrArg _ (List.countP_eq_length.2 fun _ _ => rfl))
  have hsuccessful := (hcount .successful).2
  have hfailed := (hcount .failed).2
  refine ⟨htools, htotal, hsuccessful, hfailed, ⟨fun hadds => ?_, fun hnone => ?_⟩, fun hnone => ?_⟩
  · exact List.length_eq_zero_iff.1 (Nat.left_eq_add.1 (hadds.total.symm.trans htotal))
  · change callsOfAny names (recorded since) = [] at hnone
    rw [hnone] at hsuccessful hfailed
    exact ⟨htotal.trans (congrArg _ (congrArg List.length hnone)), hsuccessful, hfailed⟩
  · rwa [Metrics.ofCalls_append_of_unknown hnone] at hreport

/-- A call before the two looks is told by both, and one of an unknown tool between them does not
count. -/
theorem addsUp_iff_unknown :
    ∃ report, (0, report) ∈ (run ["a"] [
        .record ⟨"a", 1000000, true, ⟨1736942400, 0, by decide, by decide⟩⟩, .look 0,
        .record ⟨"nope", 1000000, true, ⟨1736942400, 0, by decide, by decide⟩⟩,
        .conclude 0]).reports ∧
      report.totals.total = 1 ∧ report.totals.successful = 1 ∧ report.AddsUp := by
  obtain ⟨report, hmem, hreport⟩ := @exists_mem_reports ["a"] [
    .record ⟨"a", 1000000, true, ⟨1736942400, 0, by decide, by decide⟩⟩, .look 0,
    .record ⟨"nope", 1000000, true, ⟨1736942400, 0, by decide, by decide⟩⟩] 0 _ rfl (by decide)
  obtain ⟨-, hcount⟩ := @Metrics.count_of_reportOf _
    [⟨"a", 1000000, true, ⟨1736942400, 0, by decide, by decide⟩⟩] _ _ hreport
  have hsum : (report.tools.map fun entry => entry.2.total).sum = 1 := (hcount .all).1
  have htotal : report.totals.total = 1 := (hcount .all).2.trans (congrArg (· + 0) hsum)
  have hsuccessful : report.totals.successful = 1 :=
    (hcount .successful).2.trans (congrArg (· + 0) (hcount .successful).1)
  obtain ⟨earlier, since, later, -, -, -, hmissed, -, -, hadds, -⟩ := addsUp_iff hmem
  rw [htotal, hsum] at hmissed
  exact ⟨report, hmem, htotal, hsuccessful,
    hadds.2 (List.length_eq_zero_iff.1 (Nat.left_eq_add.1 hmissed))⟩

/-- A call between the two looks is missed by the single tools. -/
theorem not_addsUp_between :
    ∃ report, (0, report) ∈ (run ["convert_time", "get_system_time"] [.look 0,
        .record ⟨"get_system_time", 1000000, true, ⟨1736942400, 0, by decide, by decide⟩⟩,
        .conclude 0]).reports ∧
      report.totals.total = 1 ∧ (report.tools.map fun entry => entry.2.total).sum = 0 ∧
      ¬ report.AddsUp := by
  obtain ⟨report, hmem, hreport⟩ := @exists_mem_reports ["convert_time", "get_system_time"]
    [.look 0, .record ⟨"get_system_time", 1000000, true, ⟨1736942400, 0, by decide, by decide⟩⟩]
    0 _ rfl (by decide)
  obtain ⟨-, hcount⟩ := @Metrics.count_of_reportOf _ [] _ _ hreport
  have hsum : (report.tools.map fun entry => entry.2.total).sum = 0 := (hcount .all).1
  have htotal : report.totals.total = 1 := (hcount .all).2.trans (congrArg (· + 1) hsum)
  refine ⟨report, hmem, htotal, hsum, fun hadds => ?_⟩
  exact absurd (htotal.symm.trans (hadds.total.trans hsum)) Nat.one_ne_zero

end SharedMetrics

end WorldClock
