import WorldClock.Time.History
/-!
# Local seconds

From what clocks show to the moments at which they show it. The time of a place falls into spans
with one offset each. A local second is looked for among them by halving, and one of the spans next
to the one that is found may show it once more: where clocks are set back they show a local second
twice, and where they are set forward there are seconds that they never show.
-/

namespace WorldClock

/-! ### Spans -/

/-- A stretch of time with one offset. The first span of a place has no start and the last one no
stop. -/
structure Span where
  start : Option Int
  stop : Option Int
  offset : Int
deriving DecidableEq, Repr

namespace Span

/-- Where a local second lies as seen from a span: before all that clocks show in the span, among
it, or after it. -/
def locate (span : Span) (shown : Int) : Ordering :=
  if span.start.any fun start => shown < start + span.offset then .lt
  else if span.stop.any fun stop => stop + span.offset ≤ shown then .gt
  else .eq

/-- Whether clocks show a local second in a span. -/
def shows (span : Span) (shown : Int) : Bool :=
  span.locate shown == .eq

/-- The spans from some start on, with an offset first and then those of some transitions. -/
def sequence (start : Option Int) (offset : Int) : List Transition → List Span
  | [] => [⟨start, none, offset⟩]
  | next :: rest => ⟨start, some next.start, offset⟩ :: sequence (some next.start) next.offset rest

end Span

/-- The spans of a history in the order of time. -/
def History.spans (history : History) : List Span :=
  Span.sequence none history.initial history.transitions

/-! ### Looking for a local second -/

/-- Looks for a span that shows a local second, by halving the spans from `first` up to `stop`. -/
def findShowing (spans : List Span) (shown : Int) (first stop : Nat) (h : stop ≤ spans.length) :
    Option (Fin spans.length) :=
  if hlt : first < stop then
    let middle : Fin spans.length := ⟨first + (stop - first) / 2, by omega⟩
    match spans[middle].locate shown with
    | .lt => findShowing spans shown first middle (Nat.le_of_lt middle.isLt)
    | .eq => some middle
    | .gt => findShowing spans shown (middle + 1) stop h
  else none
termination_by stop - first
decreasing_by all_goals omega

/-- The moments that a local time can mean: none, one, or an earlier and a later one. -/
inductive Resolution (α : Type)
  | none
  | single (only : α)
  | ambiguous (earlier later : α)
deriving DecidableEq, Repr

namespace Resolution

variable {α β : Type}

/-- The earliest of the moments. -/
def earliest? : Resolution α → Option α
  | none => .none
  | single only => some only
  | ambiguous earlier _ => some earlier

/-- Takes each of the moments further. Where that fails for one of them there is none. -/
def andThen (f : α → Option β) : Resolution α → Resolution β
  | none => none
  | single only =>
    match f only with
    | some only => single only
    | .none => none
  | ambiguous earlier later =>
    match f earlier, f later with
    | some earlier, some later => ambiguous earlier later
    | _, _ => none

end Resolution

/-- The span with a number, if it shows a local second. -/
def showing? (spans : List Span) (shown : Int) (number : Nat) : Option Span :=
  spans[number]?.filter (·.shows shown)

/-- The spans that show a local second among a span that does and its two neighbours. -/
def showingAround (spans : List Span) (shown : Int) (number : Fin spans.length) :
    Resolution Span :=
  match if number.val = 0 then none else showing? spans shown (number - 1),
    showing? spans shown (number + 1) with
  | some earlier, _ => .ambiguous earlier spans[number]
  | none, some later => .ambiguous spans[number] later
  | none, none => .single spans[number]

/-- The spans of a history that show a local second. -/
def History.resolve (history : History) (shown : Int) : Resolution Span :=
  match findShowing history.spans shown 0 history.spans.length (Nat.le_refl _) with
  | some number => showingAround history.spans shown number
  | none => .none

end WorldClock
