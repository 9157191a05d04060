import Mathlib.Tactic
import WorldClock.Mcp.Method
/-!
# Enumerations by name

The methods, the tools and the resources are each found by their name in a list of all of them.
Looking up a name finds the one that has it (`find?_beq_eq_some_iff`).
-/

namespace WorldClock

/-- If everything in a list is found by its own name, a look-up finds what has the name. -/
lemma find?_beq_eq_some_iff {α : Type} {all : List α} {name : α → String}
    (hall : ∀ a, all.find? (fun b => name b == name a) = some a) {text : String} {a : α} :
    all.find? (fun b => name b == text) = some a ↔ text = name a := by
  constructor
  · intro h
    have hname := List.find?_some h
    exact (beq_iff_eq.1 hname).symm
  · rintro rfl
    exact hall a

lemma Method.ofName_eq_some_iff {name : String} {method : Method} :
    Method.ofName? name = some method ↔ name = method.name :=
  find?_beq_eq_some_iff fun method => by cases method <;> decide

lemma Tool.ofName_eq_some_iff {name : String} {tool : Tool} :
    Tool.ofName? name = some tool ↔ name = tool.name :=
  find?_beq_eq_some_iff fun tool => by cases tool <;> decide

lemma Resource.ofUri_eq_some_iff {uri : String} {resource : Resource} :
    Resource.ofUri? uri = some resource ↔ uri = resource.uri :=
  find?_beq_eq_some_iff fun resource => by cases resource <;> decide

end WorldClock
