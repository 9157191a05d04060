import WorldClock.Json.Basic
import WorldClock.Metrics.Calls
import WorldClock.Time.Timestamp
/-!
# Metrics reports

The figures that clients see. Times are given in seconds, and instants in UTC. The report reads the
metrics twice, first for the single tools and then for all together.
-/

namespace WorldClock

/-- A duration in seconds. -/
def Duration.toSeconds (duration : Duration) : Float :=
  (duration / nanosPerSecond).toFloat +
    (duration % nanosPerSecond).toFloat / nanosPerSecond.toFloat

/-- The figures of a group of calls. -/
structure Summary where
  total : Nat
  successful : Nat
  failed : Nat
  failureRate : Float
  shortest : Option Float
  longest : Option Float
  average : Option Float
  last : Option String

/-- The figures that statistics of calls give. -/
def CallStats.summary (stats : CallStats) : Summary where
  total := stats.total
  successful := stats.successful
  failed := stats.failed
  failureRate := if stats.total = 0 then 0 else stats.failed.toFloat / stats.total.toFloat
  shortest := stats.shortest.map Duration.toSeconds
  longest := stats.longest.map Duration.toSeconds
  average :=
    if stats.total = 0 then none
    else some (Duration.toSeconds stats.sum / stats.total.toFloat)
  last := stats.last.map Instant.utcTimestamp

/-- Figures as JSON. -/
def Summary.json (summary : Summary) : Json :=
  let figure (value : Option Float) : Json := (value.map Json.float).getD .null
  .obj [
    ("total_executions", .int summary.total),
    ("successful_executions", .int summary.successful),
    ("failed_executions", .int summary.failed),
    ("failure_rate", .float summary.failureRate),
    ("min_response_time", figure summary.shortest),
    ("max_response_time", figure summary.longest),
    ("avg_response_time", figure summary.average),
    ("last_execution_time", Json.textOrNull summary.last)]

/-- The figures of all tools, together and one by one. -/
structure Report where
  totals : Summary
  tools : List (String × Summary)

/-- A report as JSON. -/
def Report.json (report : Report) : Json :=
  .obj [
    ("totals", report.totals.json),
    ("tools", .obj (report.tools.map fun (name, summary) => (name, summary.json)))]

namespace Metrics

/-- The figures of a tool. -/
def summary? (metrics : Metrics) (tool : String) : Option Summary :=
  (metrics.stats? tool).map CallStats.summary

/-- The figures of all tools together. -/
def aggregate (metrics : Metrics) : Except Breakdown Summary :=
  metrics.totals.map CallStats.summary

/-- The report from two states of the metrics, the one in which the single tools are read and the
one, perhaps later, in which all are read together. -/
def reportOf (single together : Metrics) : Except Breakdown Report :=
  together.aggregate.map fun totals =>
    ⟨totals, single.tools.map fun (name, stats) => (name, stats.summary)⟩

/-- The report when nothing is recorded in between. -/
def report (metrics : Metrics) : Except Breakdown Report :=
  reportOf metrics metrics

end Metrics

end WorldClock
