import WorldClock.Proofs.Stdio.Lines
import WorldClock.Stdio.Conversation
/-!
# The transcript of a conversation

What the server writes to a stream of bytes, told line by line (`transcript`). The conversation that
reads the stream in pieces writes the same, whatever the pieces are (`written_hearPieces`).
-/

namespace WorldClock

namespace Conversation

variable (conversation : Conversation) (moments : Nat → Moment) (number : Nat)

/-! ### Pieces and lines -/

lemma hearLines_cons (line : Bytes) (lines : List Bytes) :
    conversation.hearLines moments number (line :: lines) =
      (conversation.hear (moments number) (keptOf line)).hearLines moments (number + 1) lines := rfl

lemma hearPieces_nil (reader : LineReader) :
    conversation.hearPieces moments number reader [] =
      if reader.kept.isEmpty then conversation
      else conversation.hear (moments number) reader.kept := by
  rw [hearPieces]

lemma hearPieces_of_more {reader reader' : LineReader} {piece : Bytes} (pieces : List Bytes)
    (h : reader.feed piece = .more reader') :
    conversation.hearPieces moments number reader (piece :: pieces) =
      conversation.hearPieces moments number reader' pieces := by
  rw [hearPieces]
  split
  · next heq => cases h.symm.trans heq; rfl
  · next heq => cases h.symm.trans heq

lemma hearPieces_of_done {reader : LineReader} {piece kept rest : Bytes} (pieces : List Bytes)
    (h : reader.feed piece = .done kept rest) :
    conversation.hearPieces moments number reader (piece :: pieces) =
      (conversation.hear (moments number) kept).hearPieces moments (number + 1) .start
        (rest :: pieces) := by
  rw [hearPieces]
  split
  · next heq => cases h.symm.trans heq
  · next heq => cases h.symm.trans heq; rfl

/-- The end of the stream ends the line, unless the line has no bytes. -/
lemma hearPieces_after_nil {seen : Bytes} (hseen : newline ∉ seen) :
    conversation.hearPieces moments number (.after seen) [] =
      conversation.hearLines moments number (linesOf seen) := by
  rw [hearPieces_nil, LineReader.kept_after]
  by_cases hnil : seen = []
  · subst hnil
    rfl
  · have hkept : ¬ (keptOf seen).isEmpty = true := by simpa using hnil
    rw [if_neg hkept, linesOf_of_notMem hnil hseen, hearLines_cons]
    rfl

/-- A conversation that reads pieces, in the middle of a line, goes on as if it heard all lines from
the start of that line. -/
lemma hearPieces_after {seen : Bytes} (hseen : newline ∉ seen) (pieces : List Bytes) :
    conversation.hearPieces moments number (.after seen) pieces =
      conversation.hearLines moments number (linesOf (seen ++ pieces.flatten)) := by
  generalize hreader : LineReader.after seen = reader
  induction conversation, number, reader, pieces using hearPieces.induct moments
    generalizing seen with
  | case1 conversation number reader hkept =>
    rw [← hreader, List.flatten_nil, List.append_nil, hearPieces_after_nil _ _ _ hseen]
  | case2 conversation number reader hkept =>
    rw [← hreader, List.flatten_nil, List.append_nil, hearPieces_after_nil _ _ _ hseen]
  | case3 conversation number reader piece pieces reader' hfeed ih =>
    rw [hearPieces_of_more _ _ _ _ hfeed]
    subst hreader
    obtain hpiece | ⟨bytes, rest, hbytes, rfl⟩ := notMem_newline_or_exists_eq_append piece
    · rw [LineReader.feed_of_notMem seen hpiece, Progress.more.injEq] at hfeed
      have hboth : newline ∉ seen ++ piece := by simp [hseen, hpiece]
      rw [ih hboth hfeed, List.flatten_cons, List.append_assoc]
    · rw [LineReader.feed_append_newline seen rest hbytes] at hfeed
      cases hfeed
  | case4 conversation number reader piece pieces kept rest hfeed hlength ih =>
    rw [hearPieces_of_done _ _ _ _ hfeed]
    subst hreader
    obtain hpiece | ⟨bytes, rest', hbytes, rfl⟩ := notMem_newline_or_exists_eq_append piece
    · rw [LineReader.feed_of_notMem seen hpiece] at hfeed
      cases hfeed
    · rw [LineReader.feed_append_newline seen rest' hbytes, Progress.done.injEq] at hfeed
      obtain ⟨rfl, rfl⟩ := hfeed
      have hboth : newline ∉ seen ++ bytes := by simp [hseen, hbytes]
      have hstream : seen ++ ((bytes ++ newline :: rest') :: pieces).flatten =
          (seen ++ bytes) ++ newline :: (rest' :: pieces).flatten := by
        simp
      rw [ih List.not_mem_nil LineReader.after_nil, List.nil_append, hstream,
        linesOf_append_newline _ hboth, hearLines_cons]

/-- Where the pieces of a stream begin and end makes no difference. -/
theorem hearPieces_start (pieces : List Bytes) :
    conversation.hearPieces moments number .start pieces =
      conversation.hearLines moments number (linesOf pieces.flatten) := by
  rw [← LineReader.after_nil, hearPieces_after _ _ _ List.not_mem_nil, List.nil_append]

end Conversation

/-! ### What is written -/

/-- What a server writes to some lines on one session. Of each line the beginning is handled, unless
it is blank, and a reply is written on a line of its own. The lines are numbered, and each one is
handled at a moment of its own. A message that brings the server to a stop is the last. -/
def transcript (server : Server) (greeted : Bool) (moments : Nat → Moment) (number : Nat) :
    List Bytes → String
  | [] => ""
  | line :: lines =>
    let kept := line.take (maxMessageBytes + 1)
    if isBlankLine kept then transcript server greeted moments (number + 1) lines
    else
      let turn := server.handle (moments number) greeted kept
      match turn.answer with
      | .silence => transcript turn.server turn.greeted moments (number + 1) lines
      | .reply response =>
        response.text ++ "\n" ++ transcript turn.server turn.greeted moments (number + 1) lines
      | .stopped _ => ""

namespace Conversation

/-- Nothing is heard after the server has come to a stop. -/
lemma hearLines_of_stopped {conversation : Conversation} (h : conversation.stopped.isSome = true)
    (moments : Nat → Moment) (number : Nat) (lines : List Bytes) :
    conversation.hearLines moments number lines = conversation := by
  induction lines generalizing number with
  | nil => rfl
  | cons line lines ih =>
    have hhear : conversation.hear (moments number) (keptOf line) = conversation := by
      simp [hear, h]
    rw [hearLines_cons, hhear, ih]

lemma written_cons (server : Server) (greeted : Bool) (response : Response)
    (replies : List Response) (stopped : Option Breakdown) :
    written ⟨server, greeted, response :: replies, stopped⟩ =
      written ⟨server, greeted, replies, stopped⟩ ++ (response.text ++ "\n") := by
  simp [written]

/-- Lines add to what is written the transcript of them. -/
lemma written_hearLines (server : Server) (greeted : Bool) (replies : List Response)
    (moments : Nat → Moment) (number : Nat) (lines : List Bytes) :
    (Conversation.hearLines ⟨server, greeted, replies, none⟩ moments number lines).written =
      written ⟨server, greeted, replies, none⟩ ++
        transcript server greeted moments number lines := by
  induction lines generalizing server greeted replies number with
  | nil => simp [hearLines, transcript]
  | cons line lines ih =>
    rw [hearLines_cons, transcript, ← keptBytes, ← keptOf]
    by_cases hblank : isBlankLine (keptOf line) = true
    · simp only [hear, hblank, Option.isSome_none, Bool.or_true, if_true, ih]
    · simp only [hear, hblank, Option.isSome_none, Bool.or_self, Bool.false_eq_true, if_false]
      cases (server.handle (moments number) greeted (keptOf line)).answer with
      | silence =>
        rw [ih]
        rfl
      | reply response =>
        rw [ih, written_cons, String.append_assoc]
        rfl
      | stopped cause =>
        rw [hearLines_of_stopped rfl, String.append_empty]
        rfl

/-- However a stream arrives in pieces, what is written to it is the transcript of its lines. -/
theorem written_hearPieces (server : Server) (greeted : Bool) (moments : Nat → Moment)
    (pieces : List Bytes) :
    (∀ lines, FallsInto pieces.flatten lines ↔ lines = linesOf pieces.flatten) ∧
      (hearPieces ⟨server, greeted, [], none⟩ moments 0 .start pieces).written =
        transcript server greeted moments 0 (linesOf pieces.flatten) := by
  refine ⟨fallsInto_iff _, ?_⟩
  rw [hearPieces_start, written_hearLines]
  simp [written]

end Conversation

end WorldClock
