import WorldClock.Proofs.Hub.HttpClient
import WorldClock.Proofs.Mcp.Replies
/-!
# Replies as the protocol has them

JSON-RPC 2.0 wants each response to tell its version, to hold either a result or an error, and to
have an id: that of the request, or null if there is none to be read. Whatever a client sends, the
reply to it is such a response but for one thing. The reply to a message that is no request does not
have an id that is null, it has none (`conforms_iff_of_isReplyTo`).
-/

namespace WorldClock

/-! ### Responses -/

/-- The members of an object that tells the version of the protocol and holds either a result or an
error, with its code and message. -/
structure TellsOutcome (members : List (String × Json)) : Prop where
  version : members.lookup "jsonrpc" = some (.str "2.0")
  result_iff : (members.lookup "result").isSome = true ↔ members.lookup "error" = none
  error : ∀ error ∈ members.lookup "error", ∃ code message,
    error.get? "code" = some (.int code) ∧ error.get? "message" = some (.str message)

/-- A text is a response as the protocol has it, with an id of some value. -/
def Conforms (text : String) (id : Json) : Prop :=
  ∃ members, Json.ofText? text.toList = some (.obj members) ∧ TellsOutcome members ∧
    members.lookup "id" = some id

/-- The id that the reply to a message is to have: that of the request, and null if the message is
none. -/
def idDue (message : Bytes) : Json :=
  (((Request.ofBytes? message).bind Request.id).map RequestId.json).getD .null

/-! ### Members of replies -/

namespace Response

variable {reply : Response}

lemma lookup_id_members (reply : Response) :
    reply.members.lookup "id" = reply.id.map RequestId.json := by
  obtain ⟨id, outcome⟩ := reply
  cases outcome <;> cases id <;> rfl

lemma tellsOutcome_members (reply : Response) : TellsOutcome reply.members := by
  obtain ⟨id, outcome⟩ := reply
  cases outcome with
  | result value =>
    have hnone : ∀ held ∈ (none : Option Json), ∃ code message,
        held.get? "code" = some (.int code) ∧ held.get? "message" = some (.str message) := by
      simp
    cases id with
    | none => exact ⟨rfl, iff_of_true rfl rfl, hnone⟩
    | some id => exact ⟨rfl, iff_of_true rfl rfl, hnone⟩
  | error error =>
    have herror : ∀ held ∈ some (Json.obj error.members), ∃ code message,
        held.get? "code" = some (.int code) ∧ held.get? "message" = some (.str message) := by
      rintro _ ⟨⟩
      exact ⟨_, _, error.get?_code_members, error.get?_message_members⟩
    have hresult : ¬ (none : Option Json).isSome = true := Bool.false_ne_true
    cases id with
    | none => exact ⟨rfl, iff_of_false hresult (Option.some_ne_none _), herror⟩
    | some id => exact ⟨rfl, iff_of_false hresult (Option.some_ne_none _), herror⟩

/-- All that a reply may lack is the id. -/
lemma conforms_iff (h : reply.Fits) {id : Json} :
    Conforms reply.text id ↔ reply.id.map RequestId.json = some id := by
  rw [← lookup_id_members]
  constructor
  · rintro ⟨members, hmembers, -, hid⟩
    rw [ofText_text h, Option.some.injEq, Json.obj.injEq] at hmembers
    rwa [hmembers]
  · intro hid
    exact ⟨reply.members, ofText_text h, tellsOutcome_members reply, hid⟩

end Response

/-! ### Replies on the wire -/

/-- A text is written as the reply to a message: it is what a server answers, on a line or on a
stream of events, or the JSON in the response to a request with the message. -/
inductive IsReplyTo (message : Bytes) : String → Prop
  | handled {server : Server} {moment : Moment} {greeted : Bool} {reply : Response}
      (h : (server.handle moment greeted message).answer = .reply reply) :
      IsReplyTo message reply.text
  | posted {hub : Hub} {arrival : Arrival} {text : String}
      (hserved : hub.config.transport.servesHttp = true)
      (hasks : arrival.Asks hub.config "POST" "/http") (hbody : arrival.request.body = message)
      (h : (hub.request arrival).2.json? = some text) : IsReplyTo message text

namespace Hub

variable {hub : Hub} {arrival : Arrival} {text : String}

lemma exists_reply_of_reactionTo {answer : Answer} (h : (reactionTo answer).json? = some text) :
    ∃ reply, answer = .reply reply ∧ reply.text = text := by
  rw [json?_reactionTo] at h
  cases answer with
  | silence => cases h
  | stopped cause => cases h
  | reply reply => exact ⟨reply, rfl, Option.some.inj h⟩

lemma exists_reply_of_postWithoutSession {request : Request}
    (h : (hub.postWithoutSession arrival request).2.json? = some text) :
    ∃ greeted reply, (hub.server.handleRequest ⟨hub.clock, arrival.elapsed⟩ greeted
      request).answer = .reply reply ∧ reply.text = text := by
  dsimp only [postWithoutSession] at h
  split_ifs at h
  · rw [json?_withHeader] at h
    exact ⟨false, exists_reply_of_reactionTo h⟩
  · exact ⟨false, exists_reply_of_reactionTo h⟩
  · exact ⟨true, exists_reply_of_reactionTo h⟩

/-- The JSON in the response to a message is what the server answers to the message. -/
lemma exists_reply_of_post (h : (hub.post arrival).2.json? = some text) :
    ∃ greeted reply,
      (hub.server.handle ⟨hub.clock, arrival.elapsed⟩ greeted arrival.request.body).answer =
        .reply reply ∧ reply.text = text := by
  unfold post at h
  split_ifs at h
  · cases h
  cases hrequest : Request.ofBytes? arrival.request.body with
  | none =>
    rw [hrequest] at h
    exact ⟨false, _, congrArg Turn.answer (Server.handle_of_none _ _ _ hrequest),
      Option.some.inj h⟩
  | some request =>
    simp only [hrequest] at h
    simp only [Server.handle, hrequest]
    split at h
    · exact exists_reply_of_postWithoutSession h
    · split_ifs at h
      · cases h
      · split at h
        · cases h
        · split at h
          · cases h
          · exact ⟨_, exists_reply_of_reactionTo h⟩

end Hub

lemma IsReplyTo.exists_reply {message : Bytes} {text : String} (h : IsReplyTo message text) :
    ∃ server moment greeted reply,
      (Server.handle server moment greeted message).answer = .reply reply ∧ reply.text = text := by
  cases h with
  | handled h => exact ⟨_, _, _, _, h, rfl⟩
  | @posted hub arrival text hserved hasks hbody h =>
    have hroute : arrival.Asks hub.config "POST" Route.rpc.path := hasks
    have hpost : arrival.request.method ≠ "DELETE" := by
      rw [hasks.method_eq]
      decide
    rw [Hub.request_of_asks hroute (by decide) hserved, Hub.json?_complete, Hub.serve,
      if_neg hpost] at h
    obtain ⟨greeted, reply, hreply, htext⟩ := Hub.exists_reply_of_post h
    exact ⟨_, _, greeted, reply, hbody ▸ hreply, htext⟩

/-- Whatever is written as the reply to a message is an object that tells the version and holds
either a result or an error. It is a response as the protocol has it exactly if the message is a
request. Otherwise what it lacks is the id. -/
theorem conforms_iff_of_isReplyTo {message : Bytes} {text : String} (h : IsReplyTo message text) :
    (Conforms text (idDue message) ↔ (Request.ofBytes? message).isSome = true) ∧
      ∃ members, Json.ofText? text.toList = some (.obj members) ∧ TellsOutcome members ∧
        (Request.ofBytes? message = none → members.lookup "id" = none) := by
  obtain ⟨server, moment, greeted, reply, hreply, rfl⟩ := h.exists_reply
  have hfits := Server.reply_fits hreply
  have hnone := (Server.reply_id hreply).1
  refine ⟨?_, reply.members, Response.ofText_text hfits, reply.tellsOutcome_members,
    fun hmessage => ?_⟩
  · rw [Response.conforms_iff hfits]
    cases hmessage : Request.ofBytes? message with
    | none => simp [hnone.2 hmessage]
    | some request =>
      have hcourse := Server.Course.of_handle server moment greeted hmessage
      obtain ⟨id, hid, hsame⟩ := hcourse.id_eq hreply
      simp [idDue, hmessage, hid, hsame]
  · rw [Response.lookup_id_members, hnone.2 hmessage]
    rfl

/-- A request is refused with its id, before its client has greeted the server. -/
theorem conforms_of_ungreeted :
    let reply : Response :=
      .failure (some (.number 1)) (.invalidRequestWith "Server not initialized")
    IsReplyTo (.ofText Server.worldTimesText) reply.text ∧ Conforms reply.text (.int 1) := by
  intro reply
  have hrequest := Server.ofBytes_worldTimesText
  have hanswer : ((Server.start 0).handle ⟨Server.lastInstant, 0⟩ false
      (.ofText Server.worldTimesText)).answer = .reply reply := by
    rw [Server.handle, hrequest]
    rfl
  have hdue : idDue (.ofText Server.worldTimesText) = .int 1 := by
    rw [idDue, hrequest]
    rfl
  have hreply : IsReplyTo (.ofText Server.worldTimesText) reply.text := .handled hanswer
  refine ⟨hreply, ?_⟩
  rw [← hdue]
  exact (conforms_iff_of_isReplyTo hreply).1.2 (by rw [hrequest]; rfl)

/-- The reply to a message that cannot be read has no id, where it is to be null. -/
theorem not_conforms_of_unreadable :
    let text :=
      "\x7b\"jsonrpc\":\"2.0\",\"error\":\x7b\"code\":-32700,\"message\":\"Parse error\"\x7d\x7d"
    IsReplyTo (.ofText "x") text ∧ idDue (.ofText "x") = .null ∧ ¬ Conforms text .null := by
  intro text
  have hrequest : Request.ofBytes? (.ofText "x") = none := by
    rw [Request.ofBytes_ofText (by decide)]
    decide +kernel
  have hanswer : ((Server.start 0).handle ⟨Server.lastInstant, 0⟩ false (.ofText "x")).answer =
      .reply (.failure none .parseError) :=
    congrArg Turn.answer (Server.handle_of_none _ _ _ hrequest)
  have htext : (Response.failure none .parseError).text = text := by decide +kernel
  rw [← htext]
  refine ⟨.handled hanswer, ?_, ?_⟩
  · rw [idDue, hrequest]
    rfl
  · rw [Response.conforms_iff (Server.reply_fits hanswer)]
    simp [Response.failure]

end WorldClock
