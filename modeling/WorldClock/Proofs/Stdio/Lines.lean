import Mathlib.Data.List.TakeWhile
import Mathlib.Tactic
import WorldClock.Stdio.Reader
/-!
# Lines of a stream

The lines that a stream falls into, in words that do not mention how they are found (`FallsInto`),
and what a reader holds of a line in the middle of it (`LineReader.after`). A reader that is fed a
piece is afterwards the reader of all bytes so far, or the line has ended within the piece. So where
the pieces begin and end does not show.
-/

namespace WorldClock

/-! ### Falling into lines -/

/-- A stream falls into lines if each line is cut off behind the first newline. What is left without
a newline is a line too, unless nothing is left. -/
inductive FallsInto : Bytes → List Bytes → Prop
  | nothing : FallsInto [] []
  | tail {bytes : Bytes} (hne : bytes ≠ []) (hnewline : newline ∉ bytes) : FallsInto bytes [bytes]
  | line {bytes rest : Bytes} {lines : List Bytes} (hnewline : newline ∉ bytes)
      (hrest : FallsInto rest lines) :
      FallsInto (bytes ++ newline :: rest) ((bytes ++ [newline]) :: lines)

/-- A piece has no newline, or a first one. -/
lemma notMem_newline_or_exists_eq_append (piece : Bytes) :
    newline ∉ piece ∨ ∃ bytes rest, newline ∉ bytes ∧ piece = bytes ++ newline :: rest := by
  by_cases h : newline ∈ piece
  · obtain ⟨bytes, rest, rfl, hbytes⟩ := List.eq_append_cons_of_mem h
    exact .inr ⟨bytes, rest, hbytes, rfl⟩
  · exact .inl h

@[simp] lemma linesOf_nil : linesOf [] = [] := rfl

lemma linesOf_cons (byte : UInt8) (stream : Bytes) :
    linesOf (byte :: stream) = addByte byte (linesOf stream) := rfl

lemma linesOf_of_notMem {bytes : Bytes} (hne : bytes ≠ []) (h : newline ∉ bytes) :
    linesOf bytes = [bytes] := by
  induction bytes with
  | nil => exact absurd rfl hne
  | cons byte bytes ih =>
    obtain ⟨hbyte, hbytes⟩ := List.ne_and_not_mem_of_not_mem_cons h
    rw [linesOf_cons, addByte.eq_def, if_neg (Ne.symm hbyte)]
    by_cases hnil : bytes = []
    · rw [hnil, linesOf_nil]
    · rw [ih hnil hbytes]

lemma linesOf_append_newline {bytes : Bytes} (rest : Bytes) (h : newline ∉ bytes) :
    linesOf (bytes ++ newline :: rest) = (bytes ++ [newline]) :: linesOf rest := by
  induction bytes with
  | nil => rw [List.nil_append, linesOf_cons, addByte.eq_def, if_pos rfl, List.nil_append]
  | cons byte bytes ih =>
    obtain ⟨hbyte, hbytes⟩ := List.ne_and_not_mem_of_not_mem_cons h
    rw [List.cons_append, linesOf_cons, ih hbytes, addByte.eq_def, if_neg (Ne.symm hbyte),
      List.cons_append]

lemma fallsInto_linesOf (stream : Bytes) : FallsInto stream (linesOf stream) := by
  induction hn : stream.length using Nat.strong_induction_on generalizing stream with
  | _ n ih =>
    obtain h | ⟨bytes, rest, hbytes, rfl⟩ := notMem_newline_or_exists_eq_append stream
    · by_cases hnil : stream = []
      · rw [hnil]
        exact .nothing
      · rw [linesOf_of_notMem hnil h]
        exact .tail hnil h
    · rw [linesOf_append_newline rest hbytes]
      refine .line hbytes (ih rest.length ?_ rest rfl)
      simp only [← hn, List.length_append, List.length_cons]
      omega

/-- A stream falls into its lines in one way only. -/
theorem fallsInto_iff (stream : Bytes) (lines : List Bytes) :
    FallsInto stream lines ↔ lines = linesOf stream := by
  constructor
  · intro h
    induction h with
    | nothing => rfl
    | tail hne hnewline => exact (linesOf_of_notMem hne hnewline).symm
    | line hnewline hrest ih => rw [linesOf_append_newline _ hnewline, ih]
  · rintro rfl
    exact fallsInto_linesOf stream

/-! ### What is kept -/

lemma keptOf_of_length_le {line : Bytes} (h : line.length ≤ keptBytes) : keptOf line = line :=
  List.take_of_length_le h

/-- Bytes behind those that are kept do not matter. -/
lemma keptOf_append_of_le {line : Bytes} (more : Bytes) (h : keptBytes ≤ line.length) :
    keptOf (line ++ more) = keptOf line :=
  List.take_append_of_le_length h

lemma keptOf_append_of_length_le {line : Bytes} (more : Bytes) (h : line.length ≤ keptBytes) :
    keptOf (line ++ more) = line ++ more.take (keptBytes - line.length) := by
  rw [keptOf, List.take_append, List.take_of_length_le h]

@[simp] lemma keptOf_eq_nil_iff (line : Bytes) : keptOf line = [] ↔ line = [] := by
  simp [keptOf, List.take_eq_nil_iff, keptBytes]

namespace LineReader

/-! ### Feeding a reader -/

lemma afterNewline_of_notMem {piece : Bytes} (h : newline ∉ piece) :
    afterNewline? piece = none := by
  have hall : piece.dropWhile (· != newline) = [] := by
    rw [List.dropWhile_eq_nil_iff]
    intro byte hbyte
    simpa using fun heq : byte = newline => h (heq ▸ hbyte)
  rw [afterNewline?, hall]

lemma afterNewline_append {bytes : Bytes} (rest : Bytes) (h : newline ∉ bytes) :
    afterNewline? (bytes ++ newline :: rest) = some rest := by
  have hall : ∀ byte ∈ bytes, (byte != newline) = true := by
    intro byte hbyte
    simpa using fun heq : byte = newline => h (heq ▸ hbyte)
  rw [afterNewline?, List.dropWhile_append_of_pos hall, List.dropWhile_cons_of_neg (by simp)]

/-- The reader of a line of which some bytes have been read. -/
def after (seen : Bytes) : LineReader :=
  if seen.length < keptBytes then keeping seen else passing (keptOf seen)

@[simp] lemma after_nil : after [] = start := by
  simp [after, start, keptBytes]

@[simp] lemma kept_after (seen : Bytes) : (after seen).kept = keptOf seen := by
  unfold after
  split_ifs with h
  · exact (keptOf_of_length_le h.le).symm
  · rfl

/-- A piece without a newline belongs to the line as a whole. -/
lemma feed_of_notMem (seen : Bytes) {piece : Bytes} (h : newline ∉ piece) :
    (after seen).feed piece = .more (after (seen ++ piece)) := by
  by_cases hseen : seen.length < keptBytes
  · have hnear : afterNewline? (piece.take (keptBytes - seen.length)) = none :=
      afterNewline_of_notMem fun hmem => h (List.mem_of_mem_take hmem)
    have hfar : afterNewline? (piece.drop (keptBytes - seen.length)) = none :=
      afterNewline_of_notMem fun hmem => h (List.mem_of_mem_drop hmem)
    simp only [after, hseen, if_true, feed, hnear, List.length_take, List.length_append]
    split_ifs with hshort hall hall
    · rw [List.take_of_length_le (by omega)]
    · omega
    · omega
    · rw [pass, hfar, keptOf_append_of_length_le _ hseen.le]
  · have hall : ¬ (seen ++ piece).length < keptBytes := by
      rw [List.length_append]
      omega
    simp only [after, hseen, hall, if_false, feed, pass, afterNewline_of_notMem h]
    rw [keptOf_append_of_le _ (not_lt.1 hseen)]

/-- A line ends with the first newline of a piece. -/
lemma feed_append_newline (seen : Bytes) {bytes : Bytes} (rest : Bytes) (h : newline ∉ bytes) :
    (after seen).feed (bytes ++ newline :: rest) =
      .done (keptOf (seen ++ bytes ++ [newline])) rest := by
  by_cases hseen : seen.length < keptBytes
  · simp only [after, hseen, if_true, feed]
    by_cases hbytes : bytes.length < keptBytes - seen.length
    · -- The newline is among the bytes for which there is room.
      obtain ⟨room, hroom⟩ := Nat.exists_eq_add_of_lt hbytes
      have hnear : (bytes ++ newline :: rest).take (keptBytes - seen.length) =
          bytes ++ newline :: rest.take room := by
        rw [hroom, List.take_append, List.take_of_length_le (by omega), Nat.add_assoc,
          Nat.add_sub_cancel_left, List.take_succ_cons]
      have hfar : (bytes ++ newline :: rest).drop (keptBytes - seen.length) = rest.drop room := by
        rw [hroom, List.drop_append, List.drop_of_length_le (by omega), Nat.add_assoc,
          Nat.add_sub_cancel_left, List.drop_succ_cons, List.nil_append]
      have hline : (bytes ++ newline :: rest.take room).length - (rest.take room).length =
          (bytes ++ [newline]).length := by
        simp only [List.length_append, List.length_cons, List.length_nil]
        omega
      have hkept : (seen ++ bytes ++ [newline]).length ≤ keptBytes := by
        simp only [List.length_append, List.length_cons, List.length_nil]
        omega
      simp only [hnear, hfar, afterNewline_append _ h, hline]
      rw [List.take_append_drop, keptOf_of_length_le hkept,
        List.append_cons bytes newline (rest.take room), List.take_left' rfl, List.append_assoc]
    · -- The line is full before its newline.
      have hle : keptBytes - seen.length ≤ bytes.length := not_lt.1 hbytes
      have hnear : afterNewline? (bytes.take (keptBytes - seen.length)) = none :=
        afterNewline_of_notMem fun hmem => h (List.mem_of_mem_take hmem)
      have hfar : newline ∉ bytes.drop (keptBytes - seen.length) :=
        fun hmem => h (List.mem_of_mem_drop hmem)
      rw [List.take_append_of_le_length hle, hnear, List.drop_append_of_le_length hle, pass,
        afterNewline_append rest hfar]
      simp only [List.length_take, min_eq_left hle, lt_irrefl, if_false]
      rw [List.append_assoc, keptOf_append_of_length_le _ hseen.le,
        List.take_append_of_le_length hle]
  · simp only [after, hseen, if_false, feed, pass, afterNewline_append rest h, List.append_assoc]
    rw [keptOf_append_of_le _ (not_lt.1 hseen)]

end LineReader

end WorldClock
