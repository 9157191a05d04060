import WorldClock.Proofs.Names
import WorldClock.Proofs.Time.Range
/-!
# Requests beyond the range of computations

Which requests bring their handling to a stop. Two kinds of results have a range: local times, which
the tool for the current time and the resource of world times compute, and sums of durations, which
the metrics hold. `Request.Overruns` lists the ways in which a request can leave the range, and
`stops_dispatch_iff` says that these are all.
-/

namespace WorldClock

/-! ### Tools -/

variable {table : ZoneTable}

/-- A call that asks for the time in a zone whose clocks cannot show it. -/
inductive ToolCall.Overruns (table : ZoneTable) (now : Instant) (call : ToolCall) : Prop
  | localTime (arguments : CurrentTimeArguments) (zone : Zone)
      (hname : call.name = "get_system_time")
      (harguments : Tool.readArguments .currentTime CurrentTimeArguments.ofJson call.arguments =
        .ok arguments)
      (hzone : Zone.ofName (arguments.timezone.getD "") table = .ok zone)
      (hrange : ¬ InRange (zone.localTime now).second)

lemma stops_tellTime_iff (arguments : CurrentTimeArguments) (now : Instant) :
    Stops (Tool.tellTime arguments now table) ↔ ∃ zone,
      Zone.ofName (arguments.timezone.getD "") table = .ok zone ∧
        ¬ InRange (zone.localTime now).second := by
  unfold Tool.tellTime
  cases Zone.ofName (arguments.timezone.getD "") table with
  | error error => simp
  | ok zone => simp [stops_timestamp_iff]

lemma not_stops_run_conversion (arguments : Option Json) (now : Instant) :
    ¬ Stops (Tool.conversion.run arguments now table) := by
  simp only [Tool.run]
  split
  · simp
  · rw [Tool.convertTime, stops_map]
    exact not_stops_convert _ _ _

lemma stops_run_currentTime_iff (arguments : Option Json) (now : Instant) :
    Stops (Tool.currentTime.run arguments now table) ↔ ∃ decoded,
      Tool.readArguments .currentTime CurrentTimeArguments.ofJson arguments = .ok decoded ∧
        Stops (Tool.tellTime decoded now table) := by
  simp only [Tool.run]
  cases Tool.readArguments .currentTime CurrentTimeArguments.ofJson arguments <;> simp

theorem ToolCall.stops_run_iff (call : ToolCall) (now : Instant) :
    Stops (call.run now table) ↔ call.Overruns table now := by
  constructor
  · intro h
    unfold ToolCall.run at h
    split at h
    · next tool htool =>
      cases tool with
      | currentTime =>
        obtain ⟨arguments, harguments, htime⟩ := (stops_run_currentTime_iff _ _).1 h
        obtain ⟨zone, hzone, hrange⟩ := (stops_tellTime_iff _ _).1 htime
        exact .localTime arguments zone (Tool.ofName_eq_some_iff.1 htool) harguments hzone hrange
      | conversion => exact absurd h (not_stops_run_conversion _ _)
    · simp at h
  · rintro ⟨arguments, zone, hname, harguments, hzone, hrange⟩
    have htool : Tool.ofName? call.name = some .currentTime := Tool.ofName_eq_some_iff.2 hname
    simp only [ToolCall.run, htool]
    exact (stops_run_currentTime_iff _ _).2
      ⟨arguments, harguments, (stops_tellTime_iff _ _).2 ⟨zone, hzone, hrange⟩⟩

/-! ### Resources -/

lemma stops_cityEntries_iff (now : Instant) :
    Stops (Resource.cityEntries now table) ↔ ∃ city ∈ Resource.cities, ∃ zone,
      Zone.ofName city.2 table = .ok zone ∧ ¬ InRange (zone.localTime now).second := by
  unfold Resource.cityEntries
  rw [stops_mapM_id]
  constructor
  · rintro ⟨entry, hmem, hstops⟩
    obtain ⟨⟨city, id⟩, hcity, hentry⟩ := List.mem_filterMap.1 hmem
    cases hzone : Zone.ofName id table with
    | error error => simp [hzone, Except.toOption] at hentry
    | ok zone =>
      simp only [hzone, Except.toOption, Option.map_some, Option.some.injEq] at hentry
      rw [← hentry, Resource.cityEntry, stops_map, stops_timestamp_iff] at hstops
      exact ⟨(city, id), hcity, zone, hzone, hstops⟩
  · rintro ⟨⟨city, id⟩, hcity, zone, hzone, hrange⟩
    refine ⟨Resource.cityEntry now city id zone, List.mem_filterMap.2 ⟨(city, id), hcity, ?_⟩, ?_⟩
    · simp [hzone, Except.toOption]
    · rw [Resource.cityEntry, stops_map, stops_timestamp_iff]
      exact hrange

/-- The sum of the durations of all calls that are counted. -/
def Metrics.durationSum (metrics : Metrics) : Duration :=
  (metrics.tools.map fun entry => entry.2.sum).sum

lemma CallStats.stops_merge_iff (a b : CallStats) :
    Stops (a.merge b) ↔ longestDuration < a.sum + b.sum := by
  unfold CallStats.merge
  split_ifs with h
  · simpa using h
  · simpa using h

lemma CallStats.sum_of_merge {a b both : CallStats} (h : a.merge b = .ok both) :
    both.sum = a.sum + b.sum := by
  unfold CallStats.merge at h
  split_ifs at h
  cases h
  rfl

/-- Statistics are put together one tool after another, so their sums only grow on the way. -/
lemma stops_foldlM_merge_iff (tools : List (String × CallStats)) (done : CallStats)
    (h : done.sum ≤ longestDuration) :
    Stops (tools.foldlM (fun done entry => done.merge entry.2) done) ↔
      longestDuration < done.sum + (tools.map fun entry => entry.2.sum).sum := by
  induction tools generalizing done with
  | nil => simpa [pure, Except.pure] using h
  | cons entry tools ih =>
    rw [List.foldlM_cons, stops_bind, CallStats.stops_merge_iff, List.map_cons, List.sum_cons]
    cases hmerge : done.merge entry.2 with
    | error cause =>
      have hstops : longestDuration < done.sum + entry.2.sum :=
        (CallStats.stops_merge_iff _ _).1 ⟨cause, hmerge⟩
      have hle : done.sum + entry.2.sum ≤
          done.sum + (entry.2.sum + (tools.map fun entry => entry.2.sum).sum) :=
        Nat.add_le_add_left (Nat.le_add_right _ _) _
      simp only [reduceCtorEq, false_and, exists_false, or_false, hstops, true_iff]
      exact Nat.lt_of_lt_of_le hstops hle
    | ok both =>
      have hle : ¬ longestDuration < done.sum + entry.2.sum := by
        rw [← CallStats.stops_merge_iff, hmerge]
        exact not_stops_ok both
      have hsum := CallStats.sum_of_merge hmerge
      simp only [hle, false_or, Except.ok.injEq, exists_eq_left']
      rw [ih both (hsum ▸ not_lt.1 hle), hsum, Nat.add_assoc]

lemma stops_report_iff (metrics : Metrics) :
    Stops metrics.report ↔ longestDuration < metrics.durationSum := by
  simp only [Metrics.report, Metrics.reportOf, Metrics.aggregate, stops_map, Metrics.totals]
  rw [stops_foldlM_merge_iff _ _ (Nat.zero_le _)]
  simp [CallStats.empty, Metrics.durationSum]

lemma stops_readResource_iff (uri : String) (now : Instant) (metrics : Metrics) :
    Stops (readResource uri now metrics table) ↔
      (uri = "time://current/world" ∧ ∃ city ∈ Resource.cities, ∃ zone,
        Zone.ofName city.2 table = .ok zone ∧ ¬ InRange (zone.localTime now).second) ∨
      (uri = "metrics://tools" ∧ longestDuration < metrics.durationSum) := by
  rw [show ("time://current/world" : String) = Resource.worldTimes.uri from rfl,
    show ("metrics://tools" : String) = Resource.toolMetrics.uri from rfl,
    ← Resource.ofUri_eq_some_iff, ← Resource.ofUri_eq_some_iff]
  unfold readResource
  cases Resource.ofUri? uri with
  | none => simp
  | some resource =>
    cases resource with
    | timezones => simp [Resource.body]
    | worldTimes =>
      obtain ⟨utc, hutc⟩ := ok_of_not_stops (not_stops_timestamp_utc now)
      simp [Resource.body, stops_bind, stops_cityEntries_iff, hutc]
    | toolMetrics => simp [Resource.body, stops_report_iff]

/-! ### Methods -/

/-- A call of a tool that leaves the range of local times or of sums of durations. -/
inductive Request.CallOverruns (table : ZoneTable) (moment : Moment) (metrics : Metrics)
    (request : Request) : Prop
  | localTime (params : Json) (call : ToolCall) (hparams : request.params = some params)
      (hcall : ToolCall.ofJson params = .ok call) (hrange : call.Overruns table moment.now)
  | durationSum (params : Json) (call : ToolCall) (stats : CallStats)
      (hparams : request.params = some params) (hcall : ToolCall.ofJson params = .ok call)
      (hstats : metrics.stats? call.name = some stats)
      (hsum : longestDuration < stats.sum + moment.elapsed)

/-- A reading of a resource that leaves the range of local times or of sums of durations. -/
inductive Request.ReadingOverruns (table : ZoneTable) (moment : Moment) (metrics : Metrics)
    (request : Request) : Prop
  | localTime (params : Json) (city : String × String) (zone : Zone)
      (hparams : request.params = some params)
      (huri : resourceOfJson params = .ok "time://current/world")
      (hcity : city ∈ Resource.cities) (hzone : Zone.ofName city.2 table = .ok zone)
      (hrange : ¬ InRange (zone.localTime moment.now).second)
  | durationSum (params : Json) (hparams : request.params = some params)
      (huri : resourceOfJson params = .ok "metrics://tools")
      (hsum : longestDuration < metrics.durationSum)

/-- A request whose handling leaves the range of local times or of sums of durations. -/
def Request.Overruns (table : ZoneTable) (moment : Moment) (metrics : Metrics)
    (request : Request) : Prop :=
  request.method = "tools/call" ∧ request.CallOverruns table moment metrics ∨
    request.method = "resources/read" ∧ request.ReadingOverruns table moment metrics

/-- Whether the handling of a message has come to a stop. -/
def Answer.IsStop (answer : Answer) : Prop :=
  ∃ cause, answer = .stopped cause

@[simp] lemma Answer.not_isStop_silence : ¬ Answer.silence.IsStop := by
  rintro ⟨cause, h⟩
  cases h

@[simp] lemma Answer.not_isStop_reply (response : Response) : ¬ (Answer.reply response).IsStop := by
  rintro ⟨cause, h⟩
  cases h

@[simp] lemma Answer.isStop_stopped (cause : Breakdown) : (Answer.stopped cause).IsStop :=
  ⟨cause, rfl⟩

lemma Metrics.not_accepts_iff (metrics : Metrics) (call : Call) :
    metrics.accepts call = false ↔ ∃ stats, metrics.stats? call.tool = some stats ∧
      longestDuration < stats.sum + call.elapsed := by
  unfold Metrics.accepts CallStats.accepts
  cases metrics.stats? call.tool <;> simp

lemma isStop_callTool_iff (limit : Duration) (moment : Moment) (metrics : Metrics)
    (request : Request) :
    (callTool limit table moment metrics request).2.IsStop ↔
      request.CallOverruns table moment metrics := by
  constructor
  · intro h
    unfold callTool at h
    split at h
    · simp at h
    · next params hparams =>
      split at h
      · simp at h
      · next call hcall =>
        split at h
        · next cause hrun =>
          exact .localTime params call hparams hcall
            ((call.stops_run_iff moment.now).1 ⟨cause, hrun⟩)
        · dsimp only at h
          split_ifs at h with haccepts
          · simp at h
          · obtain ⟨stats, hstats, hsum⟩ :=
              (Metrics.not_accepts_iff _ _).1 (Bool.eq_false_iff.2 haccepts)
            exact .durationSum params call stats hparams hcall hstats hsum
  · rintro (⟨params, call, hparams, hcall, hrange⟩ |
      ⟨params, call, stats, hparams, hcall, hstats, hsum⟩)
    · obtain ⟨cause, hrun⟩ := (call.stops_run_iff moment.now).2 hrange
      simp [callTool, hparams, hcall, hrun]
    · have hrefuses : ∀ success, metrics.accepts
          ⟨call.name, moment.elapsed, success, moment.now⟩ = false :=
        fun _ => (Metrics.not_accepts_iff _ _).2 ⟨stats, hstats, hsum⟩
      simp only [callTool, hparams, hcall]
      cases call.run moment.now table <;> simp [hrefuses]

lemma isStop_answerReading_iff (moment : Moment) (metrics : Metrics) (request : Request) :
    (answerReading table moment metrics request).IsStop ↔
      request.ReadingOverruns table moment metrics := by
  constructor
  · intro h
    unfold answerReading at h
    split at h
    · simp at h
    · next params hparams =>
      split at h
      · simp at h
      · next uri huri =>
        split at h
        · next cause hread =>
          obtain ⟨rfl, city, hcity, zone, hzone, hrange⟩ | ⟨rfl, hsum⟩ :=
            (stops_readResource_iff _ _ _).1 ⟨cause, hread⟩
          · exact .localTime params city zone hparams huri hcity hzone hrange
          · exact .durationSum params hparams huri hsum
        · simp at h
        · simp at h
  · intro h
    obtain ⟨params, uri, hparams, huri, hstops⟩ : ∃ params uri, request.params = some params ∧
        resourceOfJson params = .ok uri ∧ Stops (readResource uri moment.now metrics table) := by
      rcases h with ⟨params, city, zone, hparams, huri, hcity, hzone, hrange⟩ |
        ⟨params, hparams, huri, hsum⟩
      · exact ⟨params, _, hparams, huri,
          (stops_readResource_iff _ _ _).2 (.inl ⟨rfl, city, hcity, zone, hzone, hrange⟩)⟩
      · exact ⟨params, _, hparams, huri, (stops_readResource_iff _ _ _).2 (.inr ⟨rfl, hsum⟩)⟩
    obtain ⟨cause, hread⟩ := hstops
    simp [answerReading, hparams, huri, hread]

/-- The requests that bring the server to a stop are those that leave the range of computations. -/
theorem isStop_dispatch_iff (limit : Duration) (moment : Moment) (metrics : Metrics)
    (request : Request) :
    (dispatch limit table moment metrics request).2.IsStop ↔
      request.Overruns table moment metrics := by
  unfold Request.Overruns
  rw [show ("tools/call" : String) = Method.callTool.name from rfl,
    show ("resources/read" : String) = Method.readResource.name from rfl,
    ← Method.ofName_eq_some_iff, ← Method.ofName_eq_some_iff]
  unfold dispatch
  cases Method.ofName? request.method with
  | none => simp
  | some method =>
    cases method with
    | callTool => simp [isStop_callTool_iff]
    | readResource => simp [isStop_answerReading_iff]
    | greet | greeted | ping | listTools | listResources => simp

end WorldClock
