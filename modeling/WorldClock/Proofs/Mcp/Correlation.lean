import WorldClock.Proofs.Mcp.Overrun
import WorldClock.Proofs.Mcp.Turn
import WorldClock.Proofs.Rpc.Text
/-!
# Replies and their requests

Which messages are answered, and by what. What is no request gets a reply without an id, and a
notification gets none. A request with an id gets a reply that repeats it, with either a result or
an error. There are two exceptions: the word of the client that it is ready, which needs no reply,
and a request that leaves the range of computations, whose sender waits in vain
(`Server.reply_correlation`).
-/

namespace WorldClock

/-! ### Replies on the wire -/

/-- A reply as its receiver sees it: it names the version of the protocol, has the id and no other,
and holds either a result or an error. -/
structure Response.Answers (reply : Response) (id : Option RequestId) : Prop where
  version : reply.json.get? "jsonrpc" = some (.str "2.0")
  id_eq : reply.json.get? "id" = id.map RequestId.json
  result_iff : (reply.json.get? "result").isSome = true ↔ reply.json.get? "error" = none

lemma Response.answers_id (reply : Response) : reply.Answers reply.id := by
  obtain ⟨id, outcome⟩ := reply
  constructor
  · rfl
  · cases id <;> cases outcome <;> rfl
  · cases id <;> cases outcome <;> simp [Response.json, Json.get?, List.lookup_cons]

lemma RequestId.json_injective : Function.Injective RequestId.json := by
  intro a b h
  cases a <;> cases b <;> simp_all [RequestId.json]

/-- A reply answers no other id than its own. -/
lemma Response.answers_iff (reply : Response) (id : Option RequestId) :
    reply.Answers id ↔ reply.id = id := by
  constructor
  · intro h
    exact Option.map_injective RequestId.json_injective (reply.answers_id.id_eq.symm.trans h.id_eq)
  · rintro rfl
    exact reply.answers_id

/-! ### Answers of methods -/

/-- What can come of a request that is to be answered: a reply with its id, or nothing at all. -/
inductive Request.Gets (request : Request) : Answer → Prop
  | reply {reply : Response} (hid : reply.id = request.id) : request.Gets (.reply reply)
  | stopped (cause : Breakdown) : request.Gets (.stopped cause)

section

variable (limit : Duration) (table : ZoneTable) (moment : Moment) (metrics : Metrics)

lemma gets_callTool (request : Request) :
    request.Gets (callTool limit table moment metrics request).2 := by
  unfold callTool
  split
  · exact .reply rfl
  · split
    · exact .reply rfl
    · split
      · exact .stopped _
      · dsimp only
        split_ifs
        · exact .reply rfl
        · exact .stopped _

lemma gets_answerReading (request : Request) :
    request.Gets (answerReading table moment metrics request) := by
  unfold answerReading
  split
  · exact .reply rfl
  · split
    · exact .reply rfl
    · split
      · exact .stopped _
      · exact .reply rfl
      · exact .reply rfl

/-- All methods answer but the one by which a client says that it is ready. -/
lemma gets_dispatch {request : Request} (h : request.method ≠ Method.greeted.name) :
    request.Gets (dispatch limit table moment metrics request).2 := by
  rw [ne_eq, ← Method.ofName_eq_some_iff] at h
  unfold dispatch
  cases hmethod : Method.ofName? request.method with
  | none => exact .reply rfl
  | some method =>
    cases method with
    | greeted => exact absurd hmethod h
    | callTool => exact gets_callTool limit table moment metrics request
    | readResource => exact gets_answerReading table moment metrics request
    | greet | ping | listTools | listResources => exact .reply rfl

lemma dispatch_of_greeted {request : Request} (h : request.method = Method.greeted.name) :
    dispatch limit table moment metrics request = (metrics, .silence) := by
  simp only [dispatch, Method.ofName_eq_some_iff.2 h]

end

/-! ### Answers of the server -/

/-- The word of a client that has greeted the server that it is ready. It needs no reply. -/
def Request.SaysReady (greeted : Bool) (request : Request) : Prop :=
  greeted = true ∧ request.version = "2.0" ∧ request.method = "notifications/initialized"

/-- A request of a client that has greeted the server which leaves the range of computations. -/
def Request.BreaksDown (server : Server) (moment : Moment) (greeted : Bool) (request : Request) :
    Prop :=
  greeted = true ∧ request.version = "2.0" ∧ request.Overruns server.zones moment server.metrics

lemma Request.not_overruns_of_greeted {table : ZoneTable} {moment : Moment} {metrics : Metrics}
    {request : Request} (h : request.method = Method.greeted.name) :
    ¬ request.Overruns table moment metrics := by
  simp [Request.Overruns, h, Method.name]

lemma Request.not_overruns_of_greet {table : ZoneTable} {moment : Moment} {metrics : Metrics}
    {request : Request} (h : request.method = Method.greet.name) :
    ¬ request.Overruns table moment metrics := by
  simp [Request.Overruns, h, Method.name]

lemma Request.told_of_id {request : Request} {id : RequestId} (h : request.id = some id)
    (answer : Answer) : request.told answer = answer := by
  cases answer <;> simp [Request.told, Request.isNotification, h]

lemma Request.told_ne_reply {request : Request} (h : request.id = none) (answer : Answer)
    (reply : Response) : request.told answer ≠ .reply reply := by
  cases answer <;> simp [Request.told, Request.isNotification, h]

/-- What can come of a request with an id, by cases that exclude one another. -/
inductive Server.Correlated (server : Server) (moment : Moment) (greeted : Bool)
    (request : Request) : Answer → Prop
  | silence (hready : request.SaysReady greeted)
      (hrange : ¬ request.BreaksDown server moment greeted) :
      Correlated server moment greeted request .silence
  | stopped (cause : Breakdown) (hready : ¬ request.SaysReady greeted)
      (hrange : request.BreaksDown server moment greeted) :
      Correlated server moment greeted request (.stopped cause)
  | reply {reply : Response} (hid : reply.id = request.id) (hready : ¬ request.SaysReady greeted)
      (hrange : ¬ request.BreaksDown server moment greeted) :
      Correlated server moment greeted request (.reply reply)

namespace Server

lemma correlated_dispatch (server : Server) (moment : Moment) {request : Request}
    (hversion : request.version = rpcVersion) :
    server.Correlated moment true request
      (dispatch server.toolTimeout server.zones moment server.metrics request).2 := by
  by_cases hmethod : request.method = Method.greeted.name
  · rw [dispatch_of_greeted _ _ _ _ hmethod]
    exact .silence ⟨rfl, hversion, hmethod⟩
      fun h => Request.not_overruns_of_greeted hmethod h.2.2
  · have hready : ¬ request.SaysReady true := fun h => hmethod h.2.2
    have hstops : Answer.IsStop _ ↔ request.Overruns server.zones moment server.metrics :=
      isStop_dispatch_iff server.toolTimeout moment server.metrics request
    have hgets := gets_dispatch server.toolTimeout server.zones moment server.metrics hmethod
    generalize (dispatch server.toolTimeout server.zones moment server.metrics request).2 = answer
      at hstops hgets
    cases hgets with
    | reply hid => exact .reply hid hready fun h => Answer.not_isStop_reply _ (hstops.2 h.2.2)
    | stopped cause =>
      exact .stopped cause hready ⟨rfl, hversion, hstops.1 (Answer.isStop_stopped cause)⟩

/-- A request with an id is answered as its course demands. -/
lemma Course.correlated {server : Server} {moment : Moment} {greeted : Bool} {request : Request}
    {turn : Turn} (h : Course server moment greeted request turn) {id : RequestId}
    (hid : request.id = some id) : server.Correlated moment greeted request turn.answer := by
  cases h with
  | otherVersion hversion =>
    rw [Request.told_of_id hid]
    exact .reply rfl (fun h => hversion h.2.1) fun h => hversion h.2.1
  | ungreeted hversion hmethod =>
    rw [Request.told_of_id hid]
    exact .reply rfl (fun h => Bool.false_ne_true h.1) fun h => Bool.false_ne_true h.1
  | greeting hversion hmethod =>
    rw [Request.told_of_id hid]
    refine .reply rfl (fun h => ?_) fun h => Request.not_overruns_of_greet hmethod h.2.2
    exact absurd (hmethod.symm.trans h.2.2) (by decide)
  | carriedOut hversion hmethod =>
    rw [Request.told_of_id hid]
    exact correlated_dispatch server moment hversion

/-- Whatever the course of a request, its sender is told the outcome and nothing else. -/
lemma Course.exists_told {server : Server} {moment : Moment} {greeted : Bool} {request : Request}
    {turn : Turn} (h : Course server moment greeted request turn) :
    ∃ answer, turn.answer = request.told answer := by
  cases h <;> dsimp only <;> exact ⟨_, rfl⟩

/-- What is answered to a message. A request with an id is answered unless it says that its client
is ready, or breaks down. -/
theorem reply_correlation (server : Server) (moment : Moment) (greeted : Bool) (raw : Bytes) :
    let turn := server.handle moment greeted raw
    (Request.ofBytes? raw = none → turn.server = server ∧ turn.greeted = greeted ∧
      ∃ reply error, turn.answer = .reply reply ∧ reply.Answers none ∧
        reply.outcome = .error error ∧ error.code = -32700) ∧
    ∀ request, Request.ofBytes? raw = some request →
      (request.id = none → ∀ reply, turn.answer ≠ .reply reply) ∧
      ∀ id, request.id = some id →
        ((∃ reply, turn.answer = .reply reply ∧ reply.Answers (some id)) ↔
          ¬ request.SaysReady greeted ∧ ¬ request.BreaksDown server moment greeted) ∧
        (turn.answer = .silence ↔ request.SaysReady greeted) ∧
        ((∃ cause, turn.answer = .stopped cause) ↔
          request.BreaksDown server moment greeted) := by
  intro turn
  refine ⟨fun hraw => ?_, fun request hraw => ?_⟩
  · simp only [turn, handle_of_none _ _ _ hraw, true_and]
    exact ⟨_, .parseError, rfl, Response.answers_id _, rfl, rfl⟩
  · have hcourse : Course server moment greeted request turn :=
      .of_handle server moment greeted hraw
    refine ⟨fun hid => ?_, fun id hid => ?_⟩
    · obtain ⟨answer, htold⟩ := hcourse.exists_told
      rw [htold]
      exact Request.told_ne_reply hid answer
    have hcorrelated := hcourse.correlated hid
    generalize turn.answer = answer at hcorrelated
    cases hcorrelated with
    | silence hready hrange => simp [hready, hrange]
    | stopped cause hready hrange => simp [hready, hrange]
    | reply heq hready hrange => simp [hready, hrange, Response.answers_iff, heq, hid]

/-! ### A request that waits in vain -/

/-- A text that asks for the time in some cities. -/
def worldTimesText : String :=
  "\x7b\"jsonrpc\":\"2.0\",\"id\":1,\"method\":\"resources/read\"," ++
    "\"params\":\x7b\"uri\":\"time://current/world\"\x7d\x7d"

/-- The request that the text holds. -/
def worldTimesRequest : Request :=
  ⟨"2.0", some (.number 1), "resources/read", some (.obj [("uri", .str "time://current/world")])⟩

lemma ofBytes_worldTimesText :
    Request.ofBytes? (.ofText worldTimesText) = some worldTimesRequest := by
  have hscan : Json.scan (Text.trimmed worldTimesText.toList) = some [
      .openObject, .text (some "jsonrpc"), .colon, .text (some "2.0"), .comma,
      .text (some "id"), .colon, .number ⟨false, ['1'], [], none⟩, .comma,
      .text (some "method"), .colon, .text (some "resources/read"), .comma,
      .text (some "params"), .colon, .openObject,
      .text (some "uri"), .colon, .text (some "time://current/world"),
      .closeObject, .closeObject] := by
    decide +kernel
  rw [Request.ofBytes_ofText (by decide), Json.Tree.ofText?, hscan]
  cbv

lemma inRange_lastSecond : InRange lastSecond := by
  decide

/-- The last instant that UTC can show. Clocks in the east would show a later time. -/
def lastInstant : Instant := .ofSecond lastSecond inRange_lastSecond

lemma not_inRange_tokyo : ¬ InRange (Zone.tokyo.localTime lastInstant).second := by
  decide +kernel

/-- A server that finds Tokyo in its table cannot tell the time there. -/
lemma breaksDown_worldTimesRequest {server : Server} (elapsed : Duration)
    (h : Zone.ofName "Asia/Tokyo" server.zones = .ok .tokyo) :
    worldTimesRequest.BreaksDown server ⟨lastInstant, elapsed⟩ true :=
  ⟨rfl, rfl, .inr ⟨rfl, .localTime _ ("Tokyo", "Asia/Tokyo") _ rfl rfl (by decide) h
    not_inRange_tokyo⟩⟩

/-- A request of a client that has greeted the server, with an id, which gets no reply though it
does not say that the client is ready. -/
theorem reply_missing :
    Request.ofBytes? (.ofText worldTimesText) = some worldTimesRequest ∧
      worldTimesRequest.id = some (.number 1) ∧
      worldTimesRequest.method ≠ "notifications/initialized" ∧
      ∀ reply, ((Server.start 0).handle ⟨lastInstant, 0⟩ true (.ofText worldTimesText)).answer ≠
        .reply reply := by
  refine ⟨ofBytes_worldTimesText, rfl, by decide, fun reply h => ?_⟩
  have hcorrelated :=
    (Course.of_handle (.start 0) ⟨lastInstant, 0⟩ true ofBytes_worldTimesText).correlated rfl
  rw [h] at hcorrelated
  cases hcorrelated with
  | reply hid hready hrange => exact hrange (breaksDown_worldTimesRequest _ Zone.ofName_tokyo)

end Server

end WorldClock
