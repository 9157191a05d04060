import WorldClock.Proofs.Mcp.Answers
import WorldClock.Proofs.Stdio.Transcript
import WorldClock.Proofs.Text.Blank
/-!
# Messages as lines

A message can be sent as a line if it is not blank and has no newline, and if there is room for the
newline behind it (`IsLine`). The newline makes no difference to what it says, so what is written to
such lines are the replies to the messages, up to the first message that brings the server to a stop
(`LineClient.written_eq`).
-/

namespace WorldClock

/-! ### Newlines -/

/-- What encodes a text up to a newline encodes the text in front of it. -/
lemma Bytes.exists_text_of_newline {raw : Bytes} {text : String}
    (h : Bytes.text? (raw ++ [newline]) = some text) : ∃ front, raw.text? = some front := by
  have hbytes : text.toByteArray = (raw ++ [newline]).toByteArray := by
    rw [text_eq_some_iff] at h
    rw [h]
    exact ByteArray.ext (by simp [ofText])
  have hlt : (⟨raw.length⟩ : String.Pos.Raw) < text.rawEndPos := by
    rw [String.Pos.Raw.lt_iff, String.byteIdx_rawEndPos, ← String.size_toByteArray, hbytes]
    simp
  -- A newline is no byte in the middle of a character, so a character ends in front of it.
  have hvalid : (⟨raw.length⟩ : String.Pos.Raw).IsValid text := by
    refine String.Pos.Raw.isValid_iff_isUTF8FirstByte.2 (.inr ⟨hlt, ?_⟩)
    have hbyte : text.getUTF8Byte ⟨raw.length⟩ hlt = newline := by
      simp only [String.getUTF8Byte, hbytes, List.getElem_toByteArray]
      exact List.getElem_concat_length rfl _
    rw [hbyte]
    decide
  have hfront : raw.toByteArray.IsValidUTF8 := by
    have hextract := hvalid.isValidUTF8_extract_zero
    rw [hbytes, List.toByteArray_append, ByteArray.extract_append_eq_left (by simp)] at hextract
    exact hextract
  exact ⟨_, dif_pos hfront⟩

@[simp] lemma Bytes.text_append_newline (raw : Bytes) :
    Bytes.text? (raw ++ [newline]) = raw.text?.map (· ++ "\n") := by
  cases hraw : raw.text? with
  | none =>
    rw [Option.map_none, Option.eq_none_iff_forall_ne_some]
    intro text htext
    obtain ⟨front, hfront⟩ := exists_text_of_newline htext
    rw [hraw] at hfront
    cases hfront
  | some text =>
    rw [Option.map_some, text_eq_some_iff, text_eq_some_iff.1 hraw, ofText_append]
    rfl

/-- A newline at the end of a message makes no difference to the request that it holds. -/
lemma Request.ofBytes_append_newline {message : Bytes} (h : message.length < maxMessageBytes) :
    ofBytes? (message ++ [newline]) = ofBytes? message := by
  have hlength : (message ++ [newline]).length ≤ maxMessageBytes := by simpa using h
  simp only [ofBytes?, guard, hlength, h.le, if_true, Bytes.text_append_newline]
  cases message.text? with
  | none => rfl
  | some text =>
    have htrimmed : Text.trimmed (text ++ "\n").toList = Text.trimmed text.toList := by
      rw [String.toList_append]
      exact Text.trimmed_append_blank (by decide) text.toList
    change (Json.Tree.ofText? (Text.trimmed (text ++ "\n").toList)).bind ofTree? = _
    rw [htrimmed]
    rfl

/-! ### Messages -/

/-- Whether a message can be sent as a line of its own. -/
structure IsLine (message : Bytes) : Prop where
  not_blank : isBlankLine message = false
  newline_notMem : newline ∉ message
  length_lt : message.length < maxMessageBytes

/-- Messages as a stream of lines. -/
def streamOf (messages : List Bytes) : Bytes :=
  messages.flatMap fun message => message ++ [newline]

/-- Messages that are handled one after another, each for a time of its own. -/
def sentFrom (elapsed : Nat → Duration) (number : Nat) : List Bytes → List Sent
  | [] => []
  | message :: messages => ⟨message, elapsed number⟩ :: sentFrom elapsed (number + 1) messages

@[simp] lemma map_message_sentFrom (elapsed : Nat → Duration) (number : Nat)
    (messages : List Bytes) : (sentFrom elapsed number messages).map Sent.message = messages := by
  induction messages generalizing number with
  | nil => rfl
  | cons message messages ih => rw [sentFrom, List.map_cons, ih]

namespace IsLine

variable {message : Bytes}

lemma isBlankLine_append (h : IsLine message) : isBlankLine (message ++ [newline]) = false := by
  have hblank := h.not_blank
  simp only [isBlankLine, List.all_append] at hblank ⊢
  rw [hblank, Bool.false_and]

lemma keptOf_append (h : IsLine message) :
    keptOf (message ++ [newline]) = message ++ [newline] := by
  apply keptOf_of_length_le
  rw [List.length_append]
  exact Nat.succ_le_succ h.length_lt.le

lemma handle_append (h : IsLine message) (server : Server) (moment : Moment) (greeted : Bool) :
    server.handle moment greeted (message ++ [newline]) =
      server.handle moment greeted message := by
  unfold Server.handle
  rw [Request.ofBytes_append_newline h.length_lt]

end IsLine

lemma linesOf_streamOf {messages : List Bytes} (h : ∀ message ∈ messages, IsLine message) :
    linesOf (streamOf messages) = messages.map fun message => message ++ [newline] := by
  induction messages with
  | nil => rfl
  | cons message messages ih =>
    obtain ⟨hmessage, hrest⟩ := List.forall_mem_cons.1 h
    rw [streamOf, List.flatMap_cons, List.append_assoc, List.singleton_append,
      linesOf_append_newline _ hmessage.newline_notMem, List.map_cons, ← ih hrest]
    rfl

/-- Replies as they are written, each on a line of its own. -/
def linesOfReplies (replies : List Response) : String :=
  String.join (replies.map fun response => response.text ++ "\n")

lemma linesOfReplies_cons (response : Response) (replies : List Response) :
    linesOfReplies (response :: replies) = response.text ++ "\n" ++ linesOfReplies replies := by
  simp [linesOfReplies, String.join_cons]

lemma transcript_messages {messages : List Bytes} (h : ∀ message ∈ messages, IsLine message)
    (server : Server) (greeted : Bool) (clock : Instant) (elapsed : Nat → Duration)
    (number : Nat) :
    transcript server greeted (fun line => ⟨clock, elapsed line⟩) number
        (messages.map fun message => message ++ [newline]) =
      linesOfReplies (repliesUntilStop
        (server.answers greeted clock (sentFrom elapsed number messages))) := by
  induction messages generalizing server greeted number with
  | nil => rfl
  | cons message messages ih =>
    obtain ⟨hmessage, hrest⟩ := List.forall_mem_cons.1 h
    rw [List.map_cons, transcript, ← keptBytes, ← keptOf, hmessage.keptOf_append,
      hmessage.isBlankLine_append, hmessage.handle_append]
    simp only [Bool.false_eq_true, if_false, sentFrom, Server.answers]
    cases (server.handle ⟨clock, elapsed number⟩ greeted message).answer with
    | silence => exact ih hrest _ _ _
    | reply response =>
      rw [repliesUntilStop, linesOfReplies_cons]
      exact congrArg (response.text ++ "\n" ++ ·) (ih hrest _ _ _)
    | stopped cause => rfl

/-! ### Clients -/

/-- A client that sends messages as lines, in any pieces. The calls in each line take a time of
their own. -/
structure LineClient (messages : List Bytes) where
  pieces : List Bytes
  elapsed : Nat → Duration
  pieces_eq : pieces.flatten = streamOf messages

namespace LineClient

variable {messages : List Bytes} (client : LineClient messages)

/-- The messages that the client sends. -/
def sent : List Sent :=
  sentFrom client.elapsed 0 messages

/-- What a server writes for the client at an instant. -/
def written (toolTimeout : Duration) (clock : Instant) (zones : ZoneTable := Zone.find?) :
    String :=
  ((Conversation.start toolTimeout zones).hearPieces (fun line => ⟨clock, client.elapsed line⟩) 0
    .start client.pieces).written

lemma map_message_sent : client.sent.map Sent.message = messages :=
  map_message_sentFrom _ _ _

/-- What is written are the replies to the messages up to the first one that brings the server to a
stop. -/
theorem written_eq (h : ∀ message ∈ messages, IsLine message) (toolTimeout : Duration)
    (clock : Instant) (zones : ZoneTable) :
    client.written toolTimeout clock zones = linesOfReplies (repliesUntilStop
      ((Server.start toolTimeout zones).answers false clock client.sent)) := by
  rw [written, Conversation.start, (Conversation.written_hearPieces _ _ _ _).2, client.pieces_eq,
    linesOf_streamOf h, transcript_messages h]
  rfl

end LineClient

end WorldClock
