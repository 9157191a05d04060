import WorldClock.Breakdown
import WorldClock.Table
import WorldClock.Time.Instant
/-!
# Statistics of calls

What is kept of the calls of a fixed set of tools: how many there were, how they ended, how long
they took and when the last one was. Two halves of the calls give the same statistics together as
all calls at once (`CallStats.merge`), as long as the durations have a sum.
-/

namespace WorldClock

/-! ### Durations -/

/-- A length of time in nanoseconds. -/
abbrev Duration := Nat

/-- The number of nanoseconds of a second. -/
def nanosPerSecond : Nat := 1000000000

/-- The longest duration: its whole seconds fill 64 bits. -/
def longestDuration : Duration := 0x10000000000000000 * nanosPerSecond - 1

/-! ### Calls -/

/-- A call of a tool that has ended. -/
structure Call where
  tool : String
  elapsed : Duration
  success : Bool
  instant : Instant

/-- What is kept of the calls of a tool. -/
@[ext]
structure CallStats where
  total : Nat
  successful : Nat
  failed : Nat
  shortest : Option Duration
  longest : Option Duration
  sum : Duration
  last : Option Instant
deriving DecidableEq

namespace CallStats

/-- The statistics of no calls. -/
def empty : CallStats := ⟨0, 0, 0, none, none, 0, none⟩

/-- Whether the durations of the calls have a sum with one more call. -/
def accepts (stats : CallStats) (call : Call) : Bool :=
  stats.sum + call.elapsed ≤ longestDuration

/-- Counts one more call. If its duration leaves the range of sums, the sum and the time of the last
call stay as they were. -/
def record (stats : CallStats) (call : Call) : CallStats where
  total := stats.total + 1
  successful := if call.success then stats.successful + 1 else stats.successful
  failed := if call.success then stats.failed else stats.failed + 1
  shortest := some ((stats.shortest.map (min · call.elapsed)).getD call.elapsed)
  longest := some ((stats.longest.map (max · call.elapsed)).getD call.elapsed)
  sum := if stats.accepts call then stats.sum + call.elapsed else stats.sum
  last :=
    if stats.accepts call then
      some ((stats.last.map (Instant.latest · call.instant)).getD call.instant)
    else stats.last

/-- The statistics of two groups of calls together. -/
def merge (a b : CallStats) : Except Breakdown CallStats :=
  if a.sum + b.sum ≤ longestDuration then
    .ok {
      total := a.total + b.total
      successful := a.successful + b.successful
      failed := a.failed + b.failed
      shortest := Option.merge min a.shortest b.shortest
      longest := Option.merge max a.longest b.longest
      sum := a.sum + b.sum
      last := Option.merge Instant.latest a.last b.last }
  else .error .durationSum

end CallStats

/-! ### Calls of all tools -/

/-- What is kept of the calls of each tool, as a table. -/
structure Metrics where
  tools : List (String × CallStats)

namespace Metrics

/-- The metrics of tools with these names before any call. -/
def ofNames (names : List String) : Metrics :=
  ⟨Table.ofList (names.map fun name => (name, CallStats.empty))⟩

/-- What is kept of the calls of a tool. -/
def stats? (metrics : Metrics) (tool : String) : Option CallStats :=
  metrics.tools.lookup tool

/-- Whether the durations still have a sum with one more call. -/
def accepts (metrics : Metrics) (call : Call) : Bool :=
  (metrics.stats? call.tool).all fun stats => stats.accepts call

/-- Counts one more call. Calls of tools outside the table are not counted. -/
def record (metrics : Metrics) (call : Call) : Metrics :=
  ⟨Table.update call.tool (fun stats => stats.record call) metrics.tools⟩

/-- The statistics of the calls of all tools together. -/
def totals (metrics : Metrics) : Except Breakdown CallStats :=
  metrics.tools.foldlM (fun done entry => done.merge entry.2) CallStats.empty

end Metrics

end WorldClock
