import WorldClock.Proofs.Stdio.Transcript
/-!
# Reading one line

From a stream in pieces a reader takes one line, of which it keeps the beginning. The pieces that it
leaves hold the rest of the stream, however much of the line was not kept and wherever the pieces
begin and end (`exists_readLine_eq`). At the end of the stream, and only there, the line has no
bytes (`readLine_frames`).
-/

namespace WorldClock

/-- A stream can be cut at its first newline in one way only. -/
lemma append_newline_inj {bytes bytes' rest rest' : Bytes} (hbytes : newline ∉ bytes)
    (hbytes' : newline ∉ bytes') :
    bytes ++ newline :: rest = bytes' ++ newline :: rest' ↔ bytes = bytes' ∧ rest = rest' := by
  constructor
  · intro h
    have hlines := congrArg linesOf h
    rw [linesOf_append_newline rest hbytes, linesOf_append_newline rest' hbytes',
      List.cons.injEq, List.append_left_inj] at hlines
    obtain ⟨rfl, -⟩ := hlines
    exact ⟨rfl, (List.cons.inj (List.append_cancel_left h)).2⟩
  · rintro ⟨rfl, rfl⟩
    rfl

namespace LineReader

variable {pieces : List Bytes}

lemma readRest_of_more {reader reader' : LineReader} {piece : Bytes}
    (h : reader.feed piece = .more reader') :
    reader.readRest (piece :: pieces) = reader'.readRest pieces := by
  rw [readRest, h]

lemma readRest_of_done {reader : LineReader} {piece kept rest : Bytes}
    (h : reader.feed piece = .done kept rest) :
    reader.readRest (piece :: pieces) = (kept, rest :: pieces) := by
  rw [readRest, h]

/-- A line that has been read in part ends with the first newline, whichever piece it is in. -/
lemma exists_readRest_eq (seen : Bytes) {bytes rest : Bytes}
    (hpieces : pieces.flatten = bytes ++ newline :: rest) (hbytes : newline ∉ bytes) :
    ∃ later, (after seen).readRest pieces = (keptOf (seen ++ bytes ++ [newline]), later) ∧
      later.flatten = rest := by
  induction pieces generalizing seen bytes with
  | nil => simp at hpieces
  | cons piece pieces ih =>
    rw [List.flatten_cons] at hpieces
    obtain hpiece | ⟨front, back, hfront, rfl⟩ := notMem_newline_or_exists_eq_append piece
    · obtain hnone | ⟨front, back, hfront, hflatten⟩ :=
        notMem_newline_or_exists_eq_append pieces.flatten
      · have hmem : newline ∈ piece ++ pieces.flatten := by simp [hpieces]
        exact absurd hmem (by simp [hpiece, hnone])
      · have hboth : newline ∉ piece ++ front := by simp [hpiece, hfront]
        rw [hflatten, ← List.append_assoc, append_newline_inj hboth hbytes] at hpieces
        obtain ⟨rfl, rfl⟩ := hpieces
        obtain ⟨later, hread, hlater⟩ := ih (seen ++ piece) hflatten hfront
        refine ⟨later, ?_, hlater⟩
        rw [readRest_of_more (feed_of_notMem seen hpiece), hread]
        simp only [List.append_assoc]
    · rw [List.append_assoc, List.cons_append, append_newline_inj hfront hbytes] at hpieces
      obtain ⟨rfl, rfl⟩ := hpieces
      exact ⟨back :: pieces, readRest_of_done (feed_append_newline seen back hfront), rfl⟩

/-- A line without a newline ends with the stream. -/
lemma readRest_of_notMem (seen : Bytes) (h : newline ∉ pieces.flatten) :
    (after seen).readRest pieces = (keptOf (seen ++ pieces.flatten), []) := by
  induction pieces generalizing seen with
  | nil => simp [readRest]
  | cons piece pieces ih =>
    rw [List.flatten_cons, List.mem_append, not_or] at h
    rw [readRest_of_more (feed_of_notMem seen h.1), ih (seen ++ piece) h.2, List.flatten_cons,
      List.append_assoc]

end LineReader

/-- A reader keeps the beginning of the line up to the first newline, and leaves what comes after
the newline. -/
theorem exists_readLine_eq {pieces : List Bytes} {bytes rest : Bytes}
    (hpieces : pieces.flatten = bytes ++ newline :: rest) (hbytes : newline ∉ bytes) :
    ∃ later, readLine pieces = (keptOf (bytes ++ [newline]), later) ∧ later.flatten = rest := by
  rw [readLine, ← LineReader.after_nil]
  simpa using LineReader.exists_readRest_eq [] hpieces hbytes

/-! ### The first line of a stream -/

/-- The first line of a stream and what comes after it. The line ends with the first newline, or
else with the stream. -/
inductive IsFirstLine : Bytes → Bytes → Bytes → Prop
  | ended {bytes : Bytes} (rest : Bytes) (hnewline : newline ∉ bytes) :
      IsFirstLine (bytes ++ newline :: rest) (bytes ++ [newline]) rest
  | unended {bytes : Bytes} (hnewline : newline ∉ bytes) : IsFirstLine bytes bytes []

lemma exists_isFirstLine (stream : Bytes) : ∃ line rest, IsFirstLine stream line rest := by
  obtain h | ⟨bytes, rest, hbytes, rfl⟩ := notMem_newline_or_exists_eq_append stream
  · exact ⟨stream, [], .unended h⟩
  · exact ⟨bytes ++ [newline], rest, .ended rest hbytes⟩

namespace IsFirstLine

variable {stream line line' rest rest' : Bytes} {pieces : List Bytes}

lemma eq_nil_iff (h : IsFirstLine stream line rest) : line = [] ↔ stream = [] := by
  cases h with
  | ended => simp
  | unended => rfl

/-- The first line is one of the lines that the stream falls into. -/
lemma linesOf_eq (h : IsFirstLine stream line rest) (hne : stream ≠ []) :
    linesOf stream = line :: linesOf rest := by
  cases h with
  | ended rest hnewline => exact linesOf_append_newline rest hnewline
  | unended hnewline => exact linesOf_of_notMem hne hnewline

/-- A stream has one first line only. -/
lemma unique (h : IsFirstLine stream line rest) (h' : IsFirstLine stream line' rest') :
    line' = line ∧ rest' = rest := by
  cases h with
  | @ended bytes rest hbytes =>
    generalize hstream : bytes ++ newline :: rest = stream at h'
    cases h' with
    | ended rest' hbytes' =>
      obtain ⟨rfl, rfl⟩ := (append_newline_inj hbytes hbytes').1 hstream
      exact ⟨rfl, rfl⟩
    | unended hnone => exact absurd (by simp [← hstream]) hnone
  | unended hnone =>
    cases h' with
    | ended rest' hbytes' => exact absurd (by simp) hnone
    | unended => exact ⟨rfl, rfl⟩

/-- A reader keeps the beginning of the first line, and leaves what comes after the line. -/
lemma exists_readLine_eq (h : IsFirstLine pieces.flatten line rest) :
    ∃ later, readLine pieces = (keptOf line, later) ∧ later.flatten = rest := by
  generalize hstream : pieces.flatten = stream at h
  cases h with
  | ended rest hbytes => exact WorldClock.exists_readLine_eq hstream hbytes
  | unended hnone =>
    subst hstream
    refine ⟨[], ?_, rfl⟩
    rw [readLine, ← LineReader.after_nil, LineReader.readRest_of_notMem [] hnone, List.nil_append]

end IsFirstLine

/-- A conversation takes its lines by the reader, one after another, until there are none. -/
lemma Conversation.hearPieces_readLine (conversation : Conversation) (moments : Nat → Moment)
    (number : Nat) (pieces : List Bytes) :
    conversation.hearPieces moments number .start pieces =
      if (readLine pieces).1 = [] then conversation
      else (conversation.hear (moments number) (readLine pieces).1).hearPieces moments
        (number + 1) .start (readLine pieces).2 := by
  obtain ⟨line, rest, hline⟩ := exists_isFirstLine pieces.flatten
  obtain ⟨later, hread, hlater⟩ := hline.exists_readLine_eq
  simp only [hread, hearPieces_start, hlater, keptOf_eq_nil_iff, hline.eq_nil_iff]
  split_ifs with hnil
  · rw [hnil]
    rfl
  · rw [hline.linesOf_eq hnil, hearLines_cons]

/-- A reader takes exactly the first line, wherever the pieces begin and end: it keeps the beginning
of the line, which has no bytes at the end of the stream only, and goes on behind the line, however
much of it was kept. -/
theorem readLine_frames (pieces : List Bytes) :
    ∃ line rest,
      (∀ line' rest', IsFirstLine pieces.flatten line' rest' ↔ line' = line ∧ rest' = rest) ∧
      (readLine pieces).1 = line.take (maxMessageBytes + 1) ∧
      (readLine pieces).1.length = min line.length (maxMessageBytes + 1) ∧
      ((readLine pieces).1.length = 0 ↔ pieces.flatten = []) ∧
      (readLine pieces).2.flatten = rest ∧
      ∀ (conversation : Conversation) (moments : Nat → Moment) (number : Nat),
        conversation.hearPieces moments number .start pieces =
          if (readLine pieces).1.length = 0 then conversation
          else (conversation.hear (moments number) (readLine pieces).1).hearPieces moments
            (number + 1) .start (readLine pieces).2 := by
  obtain ⟨line, rest, hline⟩ := exists_isFirstLine pieces.flatten
  obtain ⟨later, hread, hlater⟩ := hline.exists_readLine_eq
  have hkept : (readLine pieces).1 = line.take (maxMessageBytes + 1) := by rw [hread]; rfl
  refine ⟨line, rest, fun line' rest' => ⟨hline.unique, ?_⟩, hkept, ?_, ?_, ?_, ?_⟩
  · rintro ⟨rfl, rfl⟩
    exact hline
  · rw [hkept, List.length_take, min_comm]
  · rw [hread, List.length_eq_zero_iff, keptOf_eq_nil_iff, hline.eq_nil_iff]
  · rw [hread, hlater]
  · intro conversation moments number
    rw [conversation.hearPieces_readLine]
    simp only [List.length_eq_zero_iff]

example : readLine [[0x61], [newline, 0x62], [0x63]] = ([0x61, newline], [[0x62], [0x63]]) := by
  decide

end WorldClock
