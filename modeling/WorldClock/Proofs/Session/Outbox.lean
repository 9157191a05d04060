import Mathlib.Tactic
import WorldClock.Session.Outbox
/-!
# The order of replies in an outbox

Replies stand in line only when the outbox has no room (`Outbox.Orderly`), so a reply that comes
later cannot overtake one that waits. Hence replies are read in the order in which they came, those
in the outbox before those in line (`Outbox.pending`).
-/

namespace WorldClock.Outbox

variable {outbox : Outbox}

/-- The replies that are still to be read, the next one first. -/
def pending (outbox : Outbox) : List Response :=
  outbox.queue ++ outbox.line.map Prod.snd

/-- An outbox with a reader, in which replies stand in line only if there is no room. -/
structure Orderly (outbox : Outbox) : Prop where
  isRead : outbox.isRead = true
  capacity_pos : 0 < outbox.capacity
  full : outbox.line ≠ [] → outbox.capacity ≤ outbox.queue.length

lemma hasRoom_iff : outbox.hasRoom = true ↔ outbox.queue.length < outbox.capacity :=
  decide_eq_true_iff

lemma orderly_ofCapacity {capacity : Nat} (h : 0 < capacity) : (ofCapacity capacity).Orderly :=
  ⟨rfl, h, fun hline => absurd rfl hline⟩

/-- An outbox out of which a reply has been taken is orderly again when the first reply of the line
has moved in. -/
lemma orderly_moveIn (hread : outbox.isRead = true) (hpos : 0 < outbox.capacity)
    (hfull : outbox.line ≠ [] → outbox.capacity ≤ outbox.queue.length + 1) :
    outbox.moveIn.1.Orderly ∧ outbox.moveIn.1.pending = outbox.pending := by
  unfold moveIn
  split
  · next hline => exact ⟨⟨hread, hpos, fun hne => absurd hline hne⟩, rfl⟩
  · next ticket response line hline =>
    have hlength := hfull (by simp [hline])
    split_ifs with hroom
    · refine ⟨⟨hread, hpos, fun _ => ?_⟩, by simp [pending, push, hline]⟩
      simpa [push] using hlength
    · refine ⟨⟨hread, hpos, fun _ => ?_⟩, rfl⟩
      simpa [hasRoom] using hroom

/-- The first reply of the line moves in if there is room, or nothing does. -/
lemma moveIn_cases (outbox : Outbox) :
    outbox.moveIn = (outbox, none) ∨ ∃ ticket reply line,
      outbox.line = (ticket, reply) :: line ∧ outbox.hasRoom = true ∧
        outbox.moveIn = ({ outbox with line }.push reply, some ticket) := by
  unfold moveIn
  split
  · exact .inl rfl
  · next ticket reply line hline =>
    split_ifs with hroom
    · exact .inr ⟨ticket, reply, line, hline, hroom, rfl⟩
    · exact .inl rfl

lemma next?_eq_none (hpending : outbox.pending = []) : outbox.next? = none := by
  have hqueue : outbox.queue = [] := (List.append_eq_nil_iff.1 hpending).1
  simp only [next?, hqueue]

namespace Orderly

lemma line_eq_nil (h : outbox.Orderly) (hroom : outbox.hasRoom = true) : outbox.line = [] := by
  by_contra hline
  exact absurd (hasRoom_iff.1 hroom) (Nat.not_lt.2 (h.full hline))

lemma push (h : outbox.Orderly) (hroom : outbox.hasRoom = true) (response : Response) :
    (outbox.push response).Orderly ∧
      (outbox.push response).pending = outbox.pending ++ [response] := by
  have hline := h.line_eq_nil hroom
  refine ⟨⟨h.isRead, h.capacity_pos, fun hne => absurd hline hne⟩, ?_⟩
  simp [pending, Outbox.push, hline]

lemma lineUp (h : outbox.Orderly) (hroom : outbox.hasRoom = false) (ticket : Ticket)
    (response : Response) :
    (outbox.lineUp ticket response).Orderly ∧
      (outbox.lineUp ticket response).pending = outbox.pending ++ [response] := by
  have hfull : outbox.capacity ≤ outbox.queue.length := by
    simpa [hasRoom] using hroom
  refine ⟨⟨h.isRead, h.capacity_pos, fun _ => hfull⟩, ?_⟩
  simp [pending, Outbox.lineUp]

/-- What is taken out is the reply that came first. -/
lemma next?_eq_some (h : outbox.Orderly) {response : Response} {rest : List Response}
    (hpending : outbox.pending = response :: rest) :
    ∃ outbox' movedIn, outbox.next? = some (response, outbox', movedIn) ∧ outbox'.Orderly ∧
      outbox'.pending = rest := by
  cases hqueue : outbox.queue with
  | nil =>
    -- Replies in line alone would have moved in.
    have hline : outbox.line ≠ [] := by
      intro hline
      simp [pending, hqueue, hline] at hpending
    have hfull := h.full hline
    rw [hqueue, List.length_nil] at hfull
    exact absurd h.capacity_pos (Nat.not_lt.2 hfull)
  | cons first queue =>
    rw [pending, hqueue, List.cons_append, List.cons.injEq] at hpending
    obtain ⟨rfl, rfl⟩ := hpending
    have hnext : outbox.next? = some (first, { outbox with queue }.moveIn) := by
      simp only [next?, hqueue]
    refine ⟨_, _, hnext, ?_⟩
    exact orderly_moveIn h.isRead h.capacity_pos fun hline => by simpa [hqueue] using h.full hline

end Orderly

end WorldClock.Outbox
