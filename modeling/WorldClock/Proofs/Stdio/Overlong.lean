import WorldClock.Proofs.Mcp.Turn
import WorldClock.Proofs.Stdio.Transcript
/-!
# Lines that are too long

Of a line that is too long only the beginning is heard. If there is anything but blanks in it, the
line is answered like any other that is no request, and what comes after it is handled as behind
such a line. If all of the beginning is blank, the line is passed over like a blank one, whatever
else is in it (`Conversation.written_overlong_iff`).
-/

namespace WorldClock

/-! ### Lines that are no requests -/

/-- A line is heard and is no request. -/
structure IsUnreadable (line : Bytes) : Prop where
  not_blank : isBlankLine (keptOf line) = false
  ofBytes_eq : Request.ofBytes? (keptOf line) = none

/-- Something other than blanks is heard of a line. -/
def BeginsVisibly (line : Bytes) : Prop :=
  ∃ byte ∈ line.take (maxMessageBytes + 1), isBlankByte byte = false

lemma isBlankLine_keptOf_eq_false_iff (line : Bytes) :
    isBlankLine (keptOf line) = false ↔ BeginsVisibly line := by
  simp [isBlankLine, BeginsVisibly, keptOf, keptBytes]

/-- What is kept of a line that is too long for a message is too long as well. -/
lemma ofBytes_keptOf {line : Bytes} (h : maxMessageBytes < line.length) :
    Request.ofBytes? (keptOf line) = none := by
  have hkept : ¬ (keptOf line).length ≤ maxMessageBytes := by
    rw [keptOf, List.length_take, keptBytes]
    omega
  simp [Request.ofBytes?, hkept, guard]

lemma isUnreadable_of_beginsVisibly {line : Bytes} (hlong : maxMessageBytes < line.length)
    (hbegins : BeginsVisibly line) : IsUnreadable line :=
  ⟨(isBlankLine_keptOf_eq_false_iff line).2 hbegins, ofBytes_keptOf hlong⟩

/-- The reply to a message that is no request. -/
def parseErrorReply : Response := .failure none .parseError

namespace Conversation

/-- A conversation in which a line that is no request is answered, unless the server has come to a
stop. -/
def refuse (conversation : Conversation) : Conversation :=
  if conversation.stopped.isSome then conversation
  else { conversation with replies := parseErrorReply :: conversation.replies }

variable (conversation : Conversation) (moments : Nat → Moment) (number : Nat)

lemma hear_of_isUnreadable {line : Bytes} (h : IsUnreadable line) (moment : Moment) :
    conversation.hear moment (keptOf line) = conversation.refuse := by
  unfold hear refuse
  rw [h.not_blank, Bool.or_false]
  split_ifs
  · rfl
  · simp only [Server.handle_of_none _ _ _ h.ofBytes_eq]
    rfl

lemma hear_of_not_beginsVisibly {line : Bytes} (h : ¬ BeginsVisibly line) (moment : Moment) :
    conversation.hear moment (keptOf line) = conversation := by
  have hblank : isBlankLine (keptOf line) = true := by
    rwa [← Bool.not_eq_false, isBlankLine_keptOf_eq_false_iff]
  rw [hear, hblank, Bool.or_true, if_pos rfl]

lemma hearLines_append (earlier later : List Bytes) :
    conversation.hearLines moments number (earlier ++ later) =
      (conversation.hearLines moments number earlier).hearLines moments (number + earlier.length)
        later := by
  induction earlier generalizing conversation number with
  | nil => rfl
  | cons line earlier ih =>
    rw [List.cons_append, hearLines_cons, hearLines_cons, ih, List.length_cons]
    congr 1
    omega

variable {conversation}

/-- As long as the server has not come to a stop, lines add their transcript. -/
lemma written_hearLines_of_running (h : conversation.stopped = none) (lines : List Bytes) :
    (conversation.hearLines moments number lines).written = conversation.written ++
      transcript conversation.server conversation.greeted moments number lines := by
  obtain ⟨server, greeted, replies, stopped⟩ := conversation
  obtain rfl : stopped = none := h
  exact written_hearLines server greeted replies moments number lines

/-- The answer to a line that is no request is one line more. -/
lemma written_hearLines_refuse (h : conversation.stopped = none) (lines : List Bytes) :
    (conversation.refuse.hearLines moments number lines).written =
      conversation.written ++ (parseErrorReply.text ++ "\n") ++
        transcript conversation.server conversation.greeted moments number lines := by
  obtain ⟨server, greeted, replies, stopped⟩ := conversation
  obtain rfl : stopped = none := h
  rw [← written_cons]
  exact written_hearLines server greeted _ moments number lines

/-! ### Whole streams -/

section

variable (earlier later : List Bytes) {line other : Bytes}

/-- With any line that is no request in it, a stream is handled in the same way. -/
lemma hearLines_append_cons_of_isUnreadable (h : IsUnreadable line) :
    conversation.hearLines moments number (earlier ++ line :: later) =
      (conversation.hearLines moments number earlier).refuse.hearLines moments
        (number + earlier.length + 1) later := by
  rw [hearLines_append, hearLines_cons, hear_of_isUnreadable _ h]

lemma hearLines_append_cons_of_not_beginsVisibly (h : ¬ BeginsVisibly line) :
    conversation.hearLines moments number (earlier ++ line :: later) =
      (conversation.hearLines moments number earlier).hearLines moments
        (number + earlier.length + 1) later := by
  rw [hearLines_append, hearLines_cons, hear_of_not_beginsVisibly _ h]

lemma hearLines_append_of_stopped
    (h : (conversation.hearLines moments number earlier).stopped ≠ none) :
    conversation.hearLines moments number (earlier ++ later) =
      conversation.hearLines moments number earlier := by
  rw [hearLines_append, hearLines_of_stopped (Option.isSome_iff_ne_none.2 h)]

/-- A line that is too long is answered exactly if something is heard of it. -/
lemma written_append_cons_iff (hlong : maxMessageBytes < line.length) :
    let before := conversation.hearLines moments number earlier
    (conversation.hearLines moments number (earlier ++ line :: later)).written =
        before.written ++ (parseErrorReply.text ++ "\n") ++
          transcript before.server before.greeted moments (number + earlier.length + 1) later ↔
      before.stopped = none ∧ BeginsVisibly line := by
  intro before
  constructor
  · intro heq
    -- A line more than what is written otherwise is too much.
    have hlength := congrArg String.length heq
    have hnewline : "\n".length = 1 := rfl
    simp only [String.length_append, hnewline] at hlength
    have hrun : before.stopped = none := by
      by_contra hstop
      have hsame : conversation.hearLines moments number (earlier ++ line :: later) = before :=
        hearLines_append_of_stopped _ _ _ _ hstop
      rw [hsame] at hlength
      omega
    refine ⟨hrun, ?_⟩
    by_contra hbegins
    have hsame : conversation.hearLines moments number (earlier ++ line :: later) =
        before.hearLines moments (number + earlier.length + 1) later :=
      hearLines_append_cons_of_not_beginsVisibly _ _ _ _ hbegins
    rw [hsame, written_hearLines_of_running _ _ hrun, String.length_append] at hlength
    omega
  · rintro ⟨hrun, hbegins⟩
    rw [hearLines_append_cons_of_isUnreadable _ _ _ _ (isUnreadable_of_beginsVisibly hlong hbegins),
      written_hearLines_refuse _ _ hrun]

/-- A line that is too long is as good as any other that is no request exactly if something is heard
of it. -/
lemma hearLines_append_cons_eq_iff (hlong : maxMessageBytes < line.length)
    (hother : IsUnreadable other) :
    conversation.hearLines moments number (earlier ++ line :: later) =
        conversation.hearLines moments number (earlier ++ other :: later) ↔
      (conversation.hearLines moments number earlier).stopped ≠ none ∨ BeginsVisibly line := by
  constructor
  · intro heq
    by_contra hnot
    obtain ⟨hrun, hbegins⟩ := not_or.1 hnot
    rw [not_not] at hrun
    have hwritten := written_hearLines_refuse moments (number + earlier.length + 1) hrun later
    rw [← hearLines_append_cons_of_isUnreadable _ _ _ _ hother, ← heq] at hwritten
    exact hbegins ((written_append_cons_iff _ _ _ _ hlong).1 hwritten).2
  · rintro (hstop | hbegins)
    · rw [hearLines_append_of_stopped _ _ _ _ hstop, hearLines_append_of_stopped _ _ _ _ hstop]
    · rw [hearLines_append_cons_of_isUnreadable _ _ _ _ hother,
        hearLines_append_cons_of_isUnreadable _ _ _ _ (isUnreadable_of_beginsVisibly hlong hbegins)]

end

/-- A line that is too long for a message is answered exactly if something other than blanks is
heard of it, unless the server has come to a stop before it. Then the stream is handled as with any
line in its place that is no request. Otherwise it is handled as if the line were blank. -/
theorem written_overlong_iff (limit : Duration) (zones : ZoneTable) (moments : Nat → Moment)
    {pieces earlier later : List Bytes} {line : Bytes}
    (hlines : FallsInto pieces.flatten (earlier ++ line :: later))
    (hlong : maxMessageBytes < line.length) :
    let before := (start limit zones).hearLines moments 0 earlier
    let whole := (start limit zones).hearPieces moments 0 .start pieces
    (whole.written = before.written ++ (parseErrorReply.text ++ "\n") ++
        transcript before.server before.greeted moments (earlier.length + 1) later ↔
      before.stopped = none ∧ BeginsVisibly line) ∧
    (∀ other, IsUnreadable other →
      (whole = (start limit zones).hearLines moments 0 (earlier ++ other :: later) ↔
        before.stopped ≠ none ∨ BeginsVisibly line)) ∧
    (¬ BeginsVisibly line → whole = before.hearLines moments (earlier.length + 1) later) := by
  intro before whole
  have hwhole : whole = (start limit zones).hearLines moments 0 (earlier ++ line :: later) := by
    rw [(fallsInto_iff _ _).1 hlines]
    exact hearPieces_start _ _ _ pieces
  have hnumber : 0 + earlier.length + 1 = earlier.length + 1 := by rw [Nat.zero_add]
  rw [hwhole, ← hnumber]
  exact ⟨written_append_cons_iff _ _ _ _ hlong,
    fun _ hother => hearLines_append_cons_eq_iff _ _ _ _ hlong hother,
    fun hbegins => hearLines_append_cons_of_not_beginsVisibly _ _ _ _ hbegins⟩

/-! ### Letters behind blanks -/

/-- A line that is filled with a byte as far as it is heard, and ends with a letter behind it. -/
def longLine (byte : UInt8) : Bytes := List.replicate keptBytes byte ++ [0x78, newline]

lemma fallsInto_longLine {byte : UInt8} (h : byte ≠ newline) :
    FallsInto [longLine byte].flatten [longLine byte] := by
  have hnewline : newline ∉ List.replicate keptBytes byte ++ [0x78] := by
    have hletter : newline ≠ 0x78 := by decide
    simp [List.mem_replicate, h.symm, hletter]
  simpa [longLine] using FallsInto.line hnewline .nothing

lemma length_longLine (byte : UInt8) : maxMessageBytes < (longLine byte).length := by
  rw [longLine, List.length_append, List.length_replicate, keptBytes]
  omega

lemma beginsVisibly_longLine_iff (byte : UInt8) :
    BeginsVisibly (longLine byte) ↔ isBlankByte byte = false := by
  have hkept : (longLine byte).take (maxMessageBytes + 1) = List.replicate keptBytes byte :=
    List.take_left' (List.length_replicate)
  have hbytes : keptBytes ≠ 0 := by decide
  simp [BeginsVisibly, hkept, List.mem_replicate, hbytes]

/-- A line of letters that is too long is answered. -/
theorem written_overlong_letters :
    FallsInto [longLine 0x78].flatten [longLine 0x78] ∧
      maxMessageBytes < (longLine 0x78).length ∧
      ∀ limit zones moments,
        ((start limit zones).hearPieces moments 0 .start [longLine 0x78]).written =
          parseErrorReply.text ++ "\n" := by
  have hlines : FallsInto [longLine 0x78].flatten ([] ++ longLine 0x78 :: []) :=
    fallsInto_longLine (by decide)
  have hlong := length_longLine 0x78
  refine ⟨hlines, hlong, fun limit zones moments => ?_⟩
  have hwritten := (written_overlong_iff limit zones moments hlines hlong).1.2
    ⟨rfl, (beginsVisibly_longLine_iff 0x78).2 rfl⟩
  simpa [hearLines, transcript, written, start] using hwritten

/-- A letter behind so many blanks that it is not heard is not answered. -/
theorem written_overlong_blanks :
    FallsInto [longLine 0x20].flatten [longLine 0x20] ∧
      maxMessageBytes < (longLine 0x20).length ∧
      (∃ byte ∈ longLine 0x20, isBlankByte byte = false) ∧
      ∀ limit zones moments,
        ((start limit zones).hearPieces moments 0 .start [longLine 0x20]).written = "" := by
  have hlines : FallsInto [longLine 0x20].flatten ([] ++ longLine 0x20 :: []) :=
    fallsInto_longLine (by decide)
  have hbegins : ¬ BeginsVisibly (longLine 0x20) := by
    rw [beginsVisibly_longLine_iff]
    decide
  refine ⟨hlines, length_longLine 0x20, ⟨0x78, by simp [longLine], by decide⟩,
    fun limit zones moments => ?_⟩
  rw [hearPieces_start, ← (fallsInto_iff _ _).1 hlines,
    hearLines_append_cons_of_not_beginsVisibly _ _ _ _ hbegins]
  rfl

end Conversation

end WorldClock
