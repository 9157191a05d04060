import WorldClock.Hub.Streams
import WorldClock.Proofs.Mcp.Correlation
import WorldClock.Proofs.Outcome
import WorldClock.Proofs.Rpc.Envelope
import WorldClock.Proofs.Rpc.Reply
import WorldClock.Proofs.Stdio.Transcript
/-!
# What replies say

Whatever a client sends, the reply to it fits into a text (`Server.Course.fits`), so that it is one
line on every surface and can be read back, and its id is the one in the text of the request
(`Server.reply_text`).
-/

namespace WorldClock

open Json (Tree)

/-! ### Results -/

lemma Tool.fits_json (tool : Tool) : tool.json.Fits 5 := by
  cases tool <;> exact ⟨by decide, by decide⟩

lemma Resource.fits_json (resource : Resource) : resource.json.Fits 1 :=
  Json.fits_object (by simp)

lemma Resource.fits_content (resource : Resource) (body : Json) :
    (resource.content body).Fits 1 :=
  Json.fits_object (by simp)

lemma fits_greetingResult (params : Option Json) : (greetingResult params).Fits 3 := by
  refine Json.fits_object ?_
  simp only [List.forall_mem_cons, List.not_mem_nil, false_imp_iff, implies_true, and_true]
  exact ⟨Json.fits_str _, ⟨by decide, by decide⟩, ⟨by decide, by decide⟩⟩

lemma ToolResult.fits_json (result : ToolResult) : result.json.Fits 3 := by
  have hcontent : (Json.arr [.obj [("type", .str "text"), ("text", .str result.text)]]).Fits 2 :=
    Json.fits_arr (List.forall_mem_singleton.2 (Json.fits_obj (by simp) (by simp)))
  unfold json
  split_ifs
  · exact Json.fits_obj (by simp) (by simp [hcontent])
  · exact Json.fits_obj (by simp) (by simp [hcontent])

lemma Fault.fits_json (fault : Fault) : fault.json.Fits 2 :=
  Json.fits_obj (by simp)
    (List.forall_mem_singleton.2 (Json.fits_obj (by simp) (by simp)))

lemma Fault.canonical_json (fault : Fault) : fault.json.canonical = fault.json := by
  have herror :
      (Json.obj [("code", .str fault.kind.name), ("message", .str fault.message)]).canonical =
        .obj [("code", .str fault.kind.name), ("message", .str fault.message)] :=
    Json.canonical_obj rfl (.refl _) (by decide : ["code", "message"].Pairwise (· < ·))
  exact Json.canonical_obj (by simp [Json.canonicalMembers, herror]) (.refl _)
    (by decide : ["error"].Pairwise (· < ·))

/-! ### Outcomes -/

/-- What comes of a message, if a reply to it fits into a text. -/
inductive Answer.Fits : Answer → Prop
  | silence : Fits .silence
  | stopped (cause : Breakdown) : Fits (.stopped cause)
  | reply {reply : Response} (h : reply.outcome.Fits) : Fits (.reply reply)

namespace Answer

variable {id : Option RequestId} {result : Json} {limit : Nat}

lemma fits_success (h : result.Fits limit) (hlimit : limit ≤ 125) :
    Fits (.reply (.success id result)) :=
  .reply (.result (h.canonical.mono hlimit) (Json.canonical_canonical result))

lemma fits_failure {code : Int} {message : String} (h : Json.isWord code = true) :
    Fits (.reply (.failure id ⟨code, message, none⟩)) :=
  .reply (.error h fun _ hdata => by cases hdata)

lemma fits_fault (fault : Fault) : Fits (.reply (.failure id fault.rpcError)) := by
  have hdata : fault.json.Fits 124 ∧ fault.json.canonical = fault.json :=
    ⟨fault.fits_json.mono (by decide), fault.canonical_json⟩
  unfold Fault.rpcError
  split_ifs
  · exact .reply (.error rfl (by rintro _ ⟨⟩; exact hdata))
  · exact .reply (.error rfl (by rintro _ ⟨⟩; exact hdata))

end Answer

/-! ### Answers of methods -/

lemma fits_callTool (limit : Duration) (table : ZoneTable) (moment : Moment) (metrics : Metrics)
    (request : Request) : (callTool limit table moment metrics request).2.Fits := by
  unfold callTool
  split
  · exact Answer.fits_failure rfl
  · split
    · exact Answer.fits_failure rfl
    · split
      · exact .stopped _
      · dsimp only
        split_ifs
        · exact Answer.fits_success (ToolResult.fits_json _) (by decide)
        · exact .stopped _

lemma fits_readResource {uri : String} {now : Instant} {metrics : Metrics} {table : ZoneTable}
    {content : Json} (h : readResource uri now metrics table = .ok (.ok content)) :
    content.Fits 1 := by
  unfold readResource at h
  split at h
  · next resource _ =>
    obtain ⟨body, -, hcontent⟩ := map_eq_ok_iff.1 h
    cases hcontent
    exact resource.fits_content body
  · cases h

lemma fits_answerReading (table : ZoneTable) (moment : Moment) (metrics : Metrics)
    (request : Request) : (answerReading table moment metrics request).Fits := by
  unfold answerReading
  split
  · exact Answer.fits_failure rfl
  · split
    · exact Answer.fits_failure rfl
    · split
      · exact .stopped _
      · exact Answer.fits_fault _
      · next content hread =>
        have hcontents : (Json.arr [content]).Fits 2 :=
          Json.fits_arr (List.forall_mem_singleton.2 (fits_readResource hread))
        exact Answer.fits_success (Json.fits_obj (by simp) (List.forall_mem_singleton.2 hcontents))
          (by decide)

lemma fits_dispatch (limit : Duration) (table : ZoneTable) (moment : Moment) (metrics : Metrics)
    (request : Request) : (dispatch limit table moment metrics request).2.Fits := by
  unfold dispatch
  cases Method.ofName? request.method with
  | none => exact Answer.fits_failure rfl
  | some method =>
    cases method with
    | greet => exact Answer.fits_success (fits_greetingResult _) (by decide)
    | greeted => exact .silence
    | ping => exact Answer.fits_success (⟨by decide, by decide⟩ : (Json.obj []).Fits 1) (by decide)
    | listTools =>
      have htools : (Json.arr (Tool.all.map Tool.json)).Fits 6 :=
        Json.fits_arr (List.forall_mem_map.2 fun tool _ => tool.fits_json)
      exact Answer.fits_success (Json.fits_obj (by simp) (List.forall_mem_singleton.2 htools))
        (by decide)
    | callTool => exact fits_callTool limit table moment metrics request
    | listResources =>
      have hresources : (Json.arr (Resource.all.map Resource.json)).Fits 2 :=
        Json.fits_arr (List.forall_mem_map.2 fun resource _ => resource.fits_json)
      exact Answer.fits_success (Json.fits_obj (by simp) (List.forall_mem_singleton.2 hresources))
        (by decide)
    | readResource => exact fits_answerReading table moment metrics request

/-! ### Answers of the server -/

lemma Answer.Fits.told {answer : Answer} (h : answer.Fits) (request : Request) :
    (request.told answer).Fits := by
  cases h with
  | silence => exact .silence
  | stopped cause => exact .stopped cause
  | reply h =>
    unfold Request.told
    dsimp only
    split_ifs
    · exact .silence
    · exact .reply h

lemma Server.Course.fits {server : Server} {moment : Moment} {greeted : Bool} {request : Request}
    {turn : Turn} (h : Course server moment greeted request turn) : turn.answer.Fits := by
  cases h with
  | otherVersion => exact (Answer.fits_failure rfl).told request
  | ungreeted => exact (Answer.fits_failure rfl).told request
  | greeting => exact (Answer.fits_success (fits_greetingResult _) (by decide)).told request
  | carriedOut => exact (fits_dispatch _ _ _ _ _).told request

/-! ### Ids -/

/-- Whether a text has an id of some value: the only member of this name, or the second item of the
array that a request may be as well. -/
inductive Json.Tree.HasId (value : Json) : Tree → Prop
  | member {members : List (Option String × Tree)} {id : Tree}
      (honly : members.filter (fun member => member.1 == some "id") = [(some "id", id)])
      (hvalue : id.value? maxDepth = some value) : HasId value (.object members)
  | item {version id method params : Tree} (hvalue : id.value? maxDepth = some value) :
      HasId value (.array [version, id, method, params])

/-- Whether a message is a text that has an id of some value. -/
def Bytes.HasId (raw : Bytes) (value : Json) : Prop :=
  ∃ text tree, raw.text? = some text ∧ Tree.ofText? (Text.trimmed text.toList) = some tree ∧
    tree.HasId value

lemma RequestId.ofJson_eq_some {value : Json} {id : RequestId} (h : ofJson? value = some id) :
    value = id.json ∧ id.Fits := by
  cases value with
  | int n =>
    simp only [ofJson?] at h
    split_ifs at h with hn
    cases h
    exact ⟨rfl, by rintro _ ⟨⟩; exact hn⟩
  | str text =>
    cases h
    exact ⟨rfl, by rintro _ ⟨⟩⟩
  | _ => cases h

/-- The value of an id does not depend on how deep a text may be. -/
lemma RequestId.ofTree_eq_some {tree : Tree} {id : RequestId} (h : ofTree? tree = some (some id)) :
    tree.value? Json.maxDepth = some id.json ∧ id.Fits := by
  unfold ofTree? at h
  split at h
  · cases h
  · simp only [Option.map_eq_some_iff, Option.bind_eq_some_iff, Option.some.injEq,
      exists_eq_right] at h
    obtain ⟨value, hvalue, hid⟩ := h
    obtain ⟨rfl, hfits⟩ := ofJson_eq_some hid
    refine ⟨?_, hfits⟩
    cases tree with
    | array items => cases hvalue
    | object members => cases hvalue
    | _ => exact hvalue

lemma Json.Tree.filter_of_only {name : String} {members : List (Option String × Tree)}
    {found : Tree} (h : only? name members = some (some found)) :
    members.filter (fun member => member.1 == some name) = [(some name, found)] := by
  unfold only? at h
  split at h
  · cases h
  · next other value hfilter =>
    cases h
    have hmem : (other, found) ∈ members.filter fun member => member.1 == some name :=
      hfilter ▸ .head _
    have hname : other = some name := eq_of_beq (List.mem_filter.1 hmem).2
    rw [hfilter, hname]
  · cases h

lemma Request.hasId_of_ofTree {tree : Tree} {request : Request} (h : ofTree? tree = some request)
    {id : RequestId} (hid : request.id = some id) : tree.HasId id.json ∧ id.Fits := by
  unfold ofTree? at h
  split at h
  · next members =>
    simp only [guard, Option.bind_eq_bind, ofParts?, Option.bind_eq_some_iff,
      Option.some.injEq] at h
    obtain ⟨_, -, _, -, found, hfound, _, -, _, -, _, -, read, hread, _, -, _, -, hrequest⟩ := h
    rw [← hrequest] at hid
    cases hid
    cases found with
    | none => cases hread
    | some tree =>
      obtain ⟨hvalue, hfits⟩ := RequestId.ofTree_eq_some hread
      exact ⟨.member (Json.Tree.filter_of_only hfound) hvalue, hfits⟩
  · next version item method params =>
    simp only [Option.bind_eq_bind, ofParts?, Option.bind_eq_some_iff, Option.some.injEq] at h
    obtain ⟨_, -, read, hread, _, -, _, -, hrequest⟩ := h
    rw [← hrequest] at hid
    cases hid
    obtain ⟨hvalue, hfits⟩ := RequestId.ofTree_eq_some hread
    exact ⟨.item hvalue, hfits⟩
  · cases h

/-- The id of a request is in its text. -/
lemma Request.hasId_of_ofBytes {raw : Bytes} {request : Request} (h : ofBytes? raw = some request)
    {id : RequestId} (hid : request.id = some id) : raw.HasId id.json ∧ id.Fits := by
  simp only [ofBytes?, guard, Option.bind_eq_bind, Option.bind_eq_some_iff] at h
  obtain ⟨_, -, text, htext, tree, htree, hrequest⟩ := h
  obtain ⟨hhas, hfits⟩ := hasId_of_ofTree hrequest hid
  exact ⟨⟨text, tree, htext, htree, hhas⟩, hfits⟩

/-! ### Replies of the server -/

/-- A reply that is sent has the id of its request. -/
lemma Server.Course.id_eq {server : Server} {moment : Moment} {greeted : Bool} {request : Request}
    {turn : Turn} {reply : Response} (h : Course server moment greeted request turn)
    (hreply : turn.answer = .reply reply) : ∃ id, request.id = some id ∧ reply.id = some id := by
  cases hid : request.id with
  | none =>
    obtain ⟨answer, htold⟩ := h.exists_told
    exact absurd (htold.symm.trans hreply) (Request.told_ne_reply hid answer reply)
  | some id =>
    have hcorrelated := h.correlated hid
    rw [hreply] at hcorrelated
    cases hcorrelated with
    | reply heq => exact ⟨id, rfl, heq.trans hid⟩

section Replies

variable {server : Server} {moment : Moment} {greeted : Bool} {raw : Bytes} {reply : Response}

/-- A reply without an id tells that the message is no request. All others repeat the id in the
text. -/
lemma Server.reply_id (h : (server.handle moment greeted raw).answer = .reply reply) :
    (reply.id = none ↔ Request.ofBytes? raw = none) ∧
      ∀ id ∈ reply.id, raw.HasId id.json ∧ id.Fits := by
  cases hraw : Request.ofBytes? raw with
  | none =>
    rw [handle_of_none _ _ _ hraw] at h
    cases h
    exact ⟨⟨fun _ => rfl, fun _ => rfl⟩, fun id hid => by cases hid⟩
  | some request =>
    obtain ⟨id, hrequest, hid⟩ := (Course.of_handle server moment greeted hraw).id_eq h
    rw [hid]
    refine ⟨by simp, ?_⟩
    rintro _ ⟨⟩
    exact Request.hasId_of_ofBytes hraw hrequest

/-- Every reply fits into a text. -/
lemma Server.reply_fits (h : (server.handle moment greeted raw).answer = .reply reply) :
    reply.Fits := by
  refine ⟨fun id hid => ((reply_id h).2 id hid).2, ?_⟩
  have hanswer : (server.handle moment greeted raw).answer.Fits := by
    cases hraw : Request.ofBytes? raw with
    | none =>
      rw [handle_of_none _ _ _ hraw]
      exact Answer.fits_failure rfl
    | some request => exact (Course.of_handle server moment greeted hraw).fits
  rw [h] at hanswer
  cases hanswer with
  | reply hfits => exact hfits

end Replies

/-! ### Replies on the wire -/

/-- Data without a newline are one line of an event. -/
lemma dataLines_eq_self {data : String} (h : '\n' ∉ data.toList) : dataLines data = data := by
  have hline : (data.toList.flatMap fun c => if c = '\n' then "\ndata: ".toList else [c]) =
      data.toList.flatMap fun c => [c] :=
    List.flatMap_congr fun c hc => if_neg (ne_of_mem_of_not_mem hc h)
  rw [dataLines, hline, List.flatMap_singleton', String.ofList_toList]

lemma Response.eventText_text {reply : Response} (h : reply.Fits) :
    eventText "message" reply.text = "event: message\ndata: " ++ reply.text ++ "\n\n" := by
  have hnewline : '\n' ∉ reply.text.toList := fun hmem =>
    absurd (visible_of_mem_text h hmem) (by decide)
  rw [eventText, dataLines_eq_self hnewline]
  rfl

lemma Response.count_newline_line {reply : Response} (h : reply.Fits) :
    (Bytes.ofText (reply.text ++ "\n")).count newline = 1 := by
  have hnewline : newline ∉ Bytes.ofText reply.text := fun hmem =>
    absurd (visible_of_mem_bytes h hmem) (by decide)
  rw [Bytes.ofText_append, List.count_append, List.count_eq_zero_of_not_mem hnewline]
  rfl

namespace Conversation

/-- The replies of a conversation fit into texts. -/
def Fits (conversation : Conversation) : Prop := ∀ reply ∈ conversation.replies, reply.Fits

lemma Fits.hear {conversation : Conversation} (h : conversation.Fits) (moment : Moment)
    (kept : Bytes) : (conversation.hear moment kept).Fits := by
  unfold Conversation.hear
  split_ifs
  · exact h
  · dsimp only
    split
    · exact h
    · next reply hreply => exact List.forall_mem_cons.2 ⟨Server.reply_fits hreply, h⟩
    · exact h

lemma Fits.hearLines {conversation : Conversation} (h : conversation.Fits) (moments : Nat → Moment)
    (number : Nat) (lines : List Bytes) : (conversation.hearLines moments number lines).Fits := by
  induction lines generalizing conversation number with
  | nil => exact h
  | cons line lines ih => exact ih (h.hear _ _) _

/-- What is written has one newline for each reply. -/
lemma Fits.count_newline_written {conversation : Conversation} (h : conversation.Fits) :
    (Bytes.ofText conversation.written).count newline = conversation.replies.length := by
  obtain ⟨server, greeted, replies, stopped⟩ := conversation
  induction replies with
  | nil => rfl
  | cons reply replies ih =>
    obtain ⟨hreply, hreplies⟩ := List.forall_mem_cons.1 h
    rw [written_cons, Bytes.ofText_append, List.count_append, ih hreplies,
      Response.count_newline_line hreply, List.length_cons]

end Conversation

/-- Whatever reply comes of a message, its text is one line without control characters, and reading
it gives an object with exactly the members of the reply, among them the id in the text of the
message. So what is written to a stream has one newline for each reply. -/
theorem Server.reply_text :
    (∀ (server : Server) (moment : Moment) (greeted : Bool) (raw : Bytes) (reply : Response),
      (server.handle moment greeted raw).answer = .reply reply →
        (∀ byte ∈ Bytes.ofText reply.text, 0x20 ≤ byte.toNat) ∧
        eventText "message" reply.text = "event: message\ndata: " ++ reply.text ++ "\n\n" ∧
        Json.ofText? reply.text.toList = some (.obj reply.members) ∧
        (reply.id = none ↔ Request.ofBytes? raw = none) ∧
        ∀ id ∈ reply.id, raw.HasId id.json) ∧
    ∀ (limit : Duration) (zones : ZoneTable) (moments : Nat → Moment) (pieces : List Bytes),
      let conversation := (Conversation.start limit zones).hearPieces moments 0 .start pieces
      (Bytes.ofText conversation.written).count newline = conversation.replies.length := by
  constructor
  · intro server moment greeted raw reply hreply
    have hfits := reply_fits hreply
    have hid := reply_id hreply
    exact ⟨fun _ => Response.visible_of_mem_bytes hfits, Response.eventText_text hfits,
      Response.ofText_text hfits, hid.1, fun id hmem => (hid.2 id hmem).1⟩
  · intro limit zones moments pieces conversation
    have hfits : conversation.Fits := by
      simp only [conversation, Conversation.hearPieces_start]
      exact Conversation.Fits.hearLines (fun _ hreply => by cases hreply) moments 0 _
    exact hfits.count_newline_written

/-- An id with a newline in it comes back in a reply that has none. -/
theorem Server.reply_text_ping :
    ((Server.start 0).handle ⟨lastInstant, 0⟩ true
        (.ofText "\x7b\"id\":\"a\\nb\",\"jsonrpc\":\"2.0\",\"method\":\"ping\"\x7d")).answer =
      .reply ⟨some (.text "a\nb"), .result (.obj [])⟩ ∧
    Json.ofText? "\x7b\"jsonrpc\":\"2.0\",\"id\":\"a\\nb\",\"result\":\x7b\x7d\x7d".toList =
      some (.obj [("id", .str "a\nb"), ("jsonrpc", .str "2.0"), ("result", .obj [])]) := by
  have hplain : (Json.obj [("id", .str "a\nb"), ("jsonrpc", .str "2.0"),
      ("method", .str "ping")]).isPlain = true := by decide
  have hraw : (Json.obj [("id", .str "a\nb"), ("jsonrpc", .str "2.0"),
      ("method", .str "ping")]).IsWritten
        (.ofText "\x7b\"id\":\"a\\nb\",\"jsonrpc\":\"2.0\",\"method\":\"ping\"\x7d") :=
    @Json.IsWritten.text _ [] _ [] (List.forall_mem_nil _) (Json.spells_text hplain)
      (List.forall_mem_nil _)
  have hrequest : Request.ofBytes? (.ofText
      "\x7b\"id\":\"a\\nb\",\"jsonrpc\":\"2.0\",\"method\":\"ping\"\x7d") =
      some ⟨"2.0", some (.text "a\nb"), "ping", none⟩ :=
    (Request.ofBytes_eq_some_iff (Json.isPlain_obj.1 hplain).2 (by decide) hraw (by decide) _).2
      ⟨rfl, .text _, rfl, .absent⟩
  have hanswer : ((Server.start 0).handle ⟨lastInstant, 0⟩ true (.ofText
      "\x7b\"id\":\"a\\nb\",\"jsonrpc\":\"2.0\",\"method\":\"ping\"\x7d")).answer =
      .reply ⟨some (.text "a\nb"), .result (.obj [])⟩ := by
    rw [handle, hrequest]
    rfl
  exact ⟨hanswer, (reply_text.1 _ _ _ _ _ hanswer).2.2.1⟩

end WorldClock
