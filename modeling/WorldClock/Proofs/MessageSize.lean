import WorldClock.Proofs.Hub.Refusals
import WorldClock.Proofs.Stdio.Framing
import WorldClock.Proofs.Stdio.Overlong
import WorldClock.Proofs.Transports
/-!
# The size of a message

A message of any size that the limit allows can be posted, and what is longer is refused as too
long. On a line the newline counts too. So a message on a line is read as if it was posted exactly
if there is room for the newline, or if it is no request in any case (`ofBytes_readLine_eq_iff`).
-/

namespace WorldClock

/-! ### Messages on lines -/

lemma Request.ofBytes_of_lt {message : Bytes} (h : maxMessageBytes < message.length) :
    ofBytes? message = none := by
  simp [ofBytes?, not_le.2 h, guard]

/-- What is kept of the line of a message is read like the message, if there is room for the
newline. -/
lemma ofBytes_keptOf_newline (message : Bytes) :
    Request.ofBytes? (keptOf (message ++ [newline])) =
      if message.length < maxMessageBytes then Request.ofBytes? message else none := by
  have hlength : (message ++ [newline]).length = message.length + 1 := List.length_append
  split_ifs with h
  · rw [keptOf_of_length_le (by rw [hlength, keptBytes]; omega), Request.ofBytes_append_newline h]
  · exact ofBytes_keptOf (by omega)

/-! ### Messages that are posted -/

/-- A request with another body. -/
def Arrival.withBody (arrival : Arrival) (body : Bytes) : Arrival :=
  { arrival with request := { arrival.request with body } }

namespace Hub

variable {hub : Hub} {arrival : Arrival}

lemma isTooLong_eq_false_iff (request : HttpRequest) :
    request.isTooLong = false ↔ request.body.length ≤ maxMessageBytes := by
  simp [HttpRequest.isTooLong]

/-- What comes of a message that is posted depends on the message only by the request in it. -/
lemma post_withBody {body : Bytes} (hfits : arrival.request.isTooLong = false)
    (hbody : body.length ≤ maxMessageBytes)
    (hrequest : Request.ofBytes? body = Request.ofBytes? arrival.request.body) :
    hub.post (arrival.withBody body) = hub.post arrival := by
  have hfits' : (arrival.withBody body).request.isTooLong = false :=
    (isTooLong_eq_false_iff _).2 hbody
  have hrequest' : Request.ofBytes? (arrival.withBody body).request.body =
      Request.ofBytes? arrival.request.body := hrequest
  simp only [post, hfits, hfits', hrequest', Bool.false_eq_true, if_false]
  rfl

/-- Among the responses with the status 400 only one to a message that is no request is JSON. -/
lemma json?_post_of_some {request : Request} (hfits : arrival.request.isTooLong = false)
    (hrequest : Request.ofBytes? arrival.request.body = some request)
    (hstatus : (hub.post arrival).2.status? = some 400) : (hub.post arrival).2.json? = none := by
  have hnot : 400 ∉ [200, 202, 204, 410] := by decide
  simp only [post, hfits, hrequest, Bool.false_eq_true, if_false] at hstatus ⊢
  split at hstatus
  · exact absurd (accepts_postWithoutSession hub arrival request 400 hstatus) hnot
  · split_ifs at hstatus with hreadable
    · rw [if_pos hreadable]
      rfl
    · split at hstatus
      · cases hstatus
      · split at hstatus
        · cases hstatus
        · exact absurd (accepts_reactionTo _ 400 hstatus) hnot

/-- The response to a message that is no request. -/
def unreadable : HttpResponse := .json 400 parseErrorReply.json

/-! ### Requests with messages -/

section

variable (hserved : hub.config.transport.servesHttp = true)
  (hasks : arrival.Asks hub.config "POST" "/http")
include hserved hasks

lemma request_of_isTooLong (hlong : arrival.request.isTooLong = true) :
    hub.request arrival = (hub, .response tooLong.shared) := by
  rw [request_of_posted hserved hasks, post, if_pos hlong]
  simp only [Reaction.mapResponse, complete_rpc]

lemma request_eq_unreadable_iff (hfits : arrival.request.isTooLong = false) :
    hub.request arrival = (hub, .response unreadable.shared) ↔
      Request.ofBytes? arrival.request.body = none := by
  rw [request_of_posted hserved hasks]
  constructor
  · intro h
    obtain ⟨-, hreaction⟩ := Prod.mk.inj h
    cases hrequest : Request.ofBytes? arrival.request.body with
    | none => rfl
    | some request =>
      have hstatus : (hub.post arrival).2.status? = some 400 := by
        rw [← Reaction.status?_mapResponse (status_complete .rpc arrival.request.method),
          hreaction]
        rfl
      have hjson : (hub.post arrival).2.json? = some parseErrorReply.text := by
        rw [← json?_complete arrival.request.method, hreaction]
        rfl
      rw [json?_post_of_some hfits hrequest hstatus] at hjson
      cases hjson
  · intro hrequest
    rw [post_of_none hfits hrequest]
    simp only [Reaction.mapResponse, complete_rpc]
    rfl

lemma request_withBody {body : Bytes} (hfits : arrival.request.isTooLong = false)
    (hbody : body.length ≤ maxMessageBytes)
    (hrequest : Request.ofBytes? body = Request.ofBytes? arrival.request.body) :
    hub.request (arrival.withBody body) = hub.request arrival := by
  have hasks' : (arrival.withBody body).Asks hub.config "POST" "/http" :=
    ⟨hasks.method_eq, hasks.path_eq, hasks.authorized⟩
  rw [request_of_posted hserved hasks, request_of_posted hserved hasks',
    post_withBody hfits hbody hrequest]
  rfl

end

end Hub

/-! ### One limit for both ways -/

/-- A message within the limit is read from its line as it is read when it is posted exactly if
there is room for the newline or it is no request. A longer one is refused both ways. The response
to a message that is posted tells if it is no request, and otherwise depends on the request only. -/
theorem ofBytes_readLine_eq_iff {pieces : List Bytes} {message rest : Bytes}
    (hpieces : pieces.flatten = message ++ newline :: rest) (hnewline : newline ∉ message)
    {hub : Hub} {arrival : Arrival} (hserved : hub.config.transport.servesHttp = true)
    (hasks : arrival.Asks hub.config "POST" "/http") (hbody : arrival.request.body = message) :
    let kept := (readLine pieces).1
    (readLine pieces).2.flatten = rest ∧
      (message.length ≤ maxMessageBytes →
        (Request.ofBytes? kept = Request.ofBytes? message ↔
          message.length < maxMessageBytes ∨ Request.ofBytes? message = none) ∧
        (hub.request arrival = (hub, .response Hub.unreadable.shared) ↔
          Request.ofBytes? message = none) ∧
        ∀ body : Bytes, body.length ≤ maxMessageBytes →
          Request.ofBytes? body = Request.ofBytes? message →
          hub.request (arrival.withBody body) = hub.request arrival) ∧
      (maxMessageBytes < message.length →
        Request.ofBytes? kept = none ∧ Request.ofBytes? message = none ∧
          hub.request arrival = (hub, .response tooLong.shared)) := by
  intro kept
  obtain ⟨later, hread, hlater⟩ := exists_readLine_eq hpieces hnewline
  have hkept : Request.ofBytes? kept =
      if message.length < maxMessageBytes then Request.ofBytes? message else none := by
    rw [← ofBytes_keptOf_newline]
    simp only [kept, hread]
  have hfits : arrival.request.isTooLong = false ↔ message.length ≤ maxMessageBytes := by
    rw [Hub.isTooLong_eq_false_iff, hbody]
  refine ⟨by rw [hread, hlater], fun hle => ⟨?_, ?_, ?_⟩, fun hlt => ⟨?_, ?_, ?_⟩⟩
  · rw [hkept]
    split_ifs with hlt
    · exact iff_of_true rfl (.inl hlt)
    · rw [eq_comm, or_iff_right hlt]
  · rw [Hub.request_eq_unreadable_iff hserved hasks (hfits.2 hle), hbody]
  · intro body hsize hrequest
    exact Hub.request_withBody hserved hasks (hfits.2 hle) hsize (hbody ▸ hrequest)
  · rw [hkept, if_neg hlt.asymm]
  · exact Request.ofBytes_of_lt hlt
  · refine Hub.request_of_isTooLong hserved hasks ?_
    rw [← Bool.not_eq_false, hfits]
    exact not_le.2 hlt

/-- A short message is read in the same way both ways, though its line comes in two pieces. -/
theorem ofBytes_readLine_eq_greeting :
    let message := Bytes.ofText greetingText
    let pieces := [message.take 9, message.drop 9 ++ [newline]]
    let hub := Hub.start (configWith .http) Server.lastInstant
    let arrival := directPost [] message
    pieces.flatten = message ++ newline :: [] ∧ newline ∉ message ∧
      message.length < maxMessageBytes ∧ arrival.Asks hub.config "POST" "/http" ∧
      Request.ofBytes? (readLine pieces).1 = Request.ofBytes? message ∧
      hub.request arrival ≠ (hub, .response Hub.unreadable.shared) := by
  intro message pieces hub arrival
  have hline : IsLine message := isLine_visitMessages _ List.mem_cons_self
  have hpieces : pieces.flatten = message ++ newline :: [] := by
    simp only [pieces, List.flatten_cons, List.flatten_nil, List.append_nil]
    rw [← List.append_assoc, List.take_append_drop]
  have hsends : arrival.Sends (configWith .http) none := hline.sends (by decide)
  have hasks : arrival.Asks hub.config "POST" "/http" := hsends.asks
  have hserved : hub.config.transport.servesHttp = true := rfl
  obtain ⟨-, hwithin, -⟩ :=
    ofBytes_readLine_eq_iff hpieces hline.newline_notMem hserved hasks rfl
  obtain ⟨hsame, hrefused, -⟩ := hwithin hline.length_lt.le
  refine ⟨hpieces, hline.newline_notMem, hline.length_lt, hasks,
    hsame.2 (.inl hline.length_lt), fun h => ?_⟩
  have hnone : Request.ofBytes? message = none := hrefused.1 h
  rw [ofBytes_greetingText] at hnone
  cases hnone

/-! ### A message that fills the limit -/

/-- A greeting with so many blanks in front of it that it is as long as a message may be. -/
def fullMessage : Bytes :=
  List.replicate (maxMessageBytes - (Bytes.ofText greetingText).length) 0x20 ++
    Bytes.ofText greetingText

lemma length_fullMessage : fullMessage.length = maxMessageBytes := by
  have hle : (Bytes.ofText greetingText).length ≤ maxMessageBytes := by decide +kernel
  rw [fullMessage, List.length_append, List.length_replicate, Nat.sub_add_cancel hle]

lemma newline_notMem_fullMessage : newline ∉ fullMessage := by
  have hgreeting : newline ∉ Bytes.ofText greetingText :=
    (isLine_visitMessages _ List.mem_cons_self).newline_notMem
  have hblank : newline ≠ 0x20 := by decide
  simp [fullMessage, List.mem_replicate, hblank, hgreeting]

lemma isBlankLine_fullMessage : isBlankLine fullMessage = false := by
  have hgreeting : isBlankLine (Bytes.ofText greetingText) = false :=
    (isLine_visitMessages _ List.mem_cons_self).not_blank
  rw [fullMessage, isBlankLine, List.all_append, ← isBlankLine, ← isBlankLine, hgreeting,
    Bool.and_false]

/-- Blanks in front of a message make no difference to the request in it. -/
lemma ofBytes_replicate_append {count : Nat} {text : String}
    (h : count + (Bytes.ofText text).length ≤ maxMessageBytes) :
    Request.ofBytes? (List.replicate count 0x20 ++ Bytes.ofText text) =
      Request.ofBytes? (.ofText text) := by
  have hblanks : Bytes.ofText (String.ofList (List.replicate count ' ')) =
      List.replicate count 0x20 := by
    have hblank : String.utf8EncodeChar ' ' = [0x20] := by decide
    rw [Bytes.ofText_eq_flatMap, String.toList_ofList, List.flatMap_replicate, hblank,
      List.flatten_replicate_singleton]
  have hlength : (Bytes.ofText (String.ofList (List.replicate count ' ') ++ text)).length ≤
      maxMessageBytes := by
    rwa [Bytes.ofText_append, hblanks, List.length_append, List.length_replicate]
  have htrimmed : Text.trimmed (String.ofList (List.replicate count ' ') ++ text).toList =
      Text.trimmed text.toList := by
    have hblank : ∀ c ∈ List.replicate count ' ', Text.isBlank c = true := by
      simp only [List.mem_replicate, and_imp]
      rintro c - rfl
      decide
    have hboth := Text.trimmed_blanks hblank (List.forall_mem_nil _) text.toList
    simpa using hboth
  rw [← hblanks, ← Bytes.ofText_append, Request.ofBytes_ofText hlength, htrimmed,
    Request.ofBytes_ofText (Nat.le_of_add_left_le h)]

/-- A message that fills the limit is a request when it is posted, and none on a line. -/
theorem ofBytes_readLine_ne_full :
    fullMessage.length ≤ maxMessageBytes ∧ newline ∉ fullMessage ∧
      isBlankLine fullMessage = false ∧
      Request.ofBytes? fullMessage = some ⟨"2.0", some (.number 1), "initialize", none⟩ ∧
      Request.ofBytes? (readLine [fullMessage ++ [newline]]).1 = none := by
  have hpieces : [fullMessage ++ [newline]].flatten = fullMessage ++ newline :: [] :=
    List.flatten_singleton
  obtain ⟨later, hread, -⟩ := exists_readLine_eq hpieces newline_notMem_fullMessage
  refine ⟨length_fullMessage.le, newline_notMem_fullMessage, isBlankLine_fullMessage, ?_, ?_⟩
  · have hlength := length_fullMessage
    rw [fullMessage, List.length_append, List.length_replicate] at hlength
    rw [fullMessage, ofBytes_replicate_append hlength.le, ofBytes_greetingText]
  · rw [hread, ofBytes_keptOf_newline, length_fullMessage, if_neg (lt_irrefl _)]

end WorldClock
