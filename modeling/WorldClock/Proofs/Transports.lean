import WorldClock.Proofs.Hub.HttpClient
import WorldClock.Proofs.Hub.StreamClient
import WorldClock.Proofs.Stdio.Messages
/-!
# One server behind all transports

The same messages get the same replies, up to the response times in reports, whether they are sent
as lines, posted for a stream, or posted in a session (`transport_independence`). One thing sets the
lines apart: a message that brings its handling to a stop ends the process that reads them, so that
what comes after is not answered, while on the network only the one message goes without a reply.
-/

namespace WorldClock

/-! ### The same messages -/

section

variable {limit : Duration} {zones : ZoneTable} {clock : Instant} {sent sent' : List Sent}

/-- A server that has not been called gives the same messages answers that are alike. -/
lemma Server.start_answers_alike (greeted : Bool)
    (hsent : sent.map Sent.message = sent'.map Sent.message)
    (htime : timeSent sent ≤ longestDuration) (htime' : timeSent sent' ≤ longestDuration) :
    List.Forall₂ Answer.Alike ((Server.start limit zones).answers greeted clock sent)
      ((Server.start limit zones).answers greeted clock sent') := by
  have hcalls : CallsAlike [] [] := rfl
  refine answers_alike limit zones greeted hsent hcalls ?_ ?_
  · simpa [timeOf] using htime
  · simpa [timeOf] using htime'

/-- The replies up to the first stop are the replies that others get to the same messages exactly if
no reply comes after a stop. -/
lemma repliesUntilStop_alike_iff {answers answers' : List Answer}
    (h : List.Forall₂ Answer.Alike answers answers') :
    List.Forall₂ Response.Alike (repliesUntilStop answers) (repliesIn answers') ↔
      NoReplyAfterStop answers := by
  rw [← repliesUntilStop_eq_iff]
  constructor
  · intro halike
    have hlength : (repliesUntilStop answers).length = (repliesIn answers).length :=
      halike.length_eq.trans (repliesIn_alike h).length_eq.symm
    exact (repliesUntilStop_sublist answers).eq_of_length hlength
  · intro heq
    rw [heq]
    exact repliesIn_alike h

end

/-- Clients that send the same messages get replies that are alike, whether the messages are lines,
posts for a stream, or posts in a session. For lines that is so exactly if no reply comes after a
stop. A message that is posted without a session is answered as on one with a greeting. -/
theorem transport_independence (config : Config) (clock : Instant) (zones : ZoneTable)
    {messages : List Bytes} (hlines : ∀ message ∈ messages, IsLine message)
    {streams posts : Transport} (hstreams : streams.servesStreams = true)
    (hposts : posts.servesHttp = true)
    (lines : LineClient messages)
    (reader : StreamClient { config with transport := streams } messages)
    (poster : HttpClient { config with transport := posts } messages)
    (htime : ∀ sent ∈ [lines.sent, reader.sent, poster.sent], timeSent sent ≤ longestDuration) :
    let answers := (Server.start config.toolTimeout zones).answers false clock
    let streamHub := Hub.start { config with transport := streams } clock zones
    let postHub := Hub.start { config with transport := posts } clock zones
    lines.written config.toolTimeout clock zones =
        linesOfReplies (repliesUntilStop (answers lines.sent)) ∧
      (eventsIn (reader.frames streamHub) =
          eventText "endpoint" (endpointUrl config.publicUrl reader.connect.freshId) ::
            (repliesIn (answers reader.sent)).map replyEvent ↔
        '\r' ∉ (endpointUrl config.publicUrl reader.connect.freshId).toList) ∧
      poster.bodies postHub = (repliesIn (answers poster.sent)).map Response.text ∧
      (∃ response, (postHub.request poster.greeting).2 = .response response ∧
        ∀ id, response.Issues id ↔ id = poster.greeting.freshId) ∧
      List.Forall₂ Response.Alike (repliesIn (answers reader.sent))
        (repliesIn (answers poster.sent)) ∧
      (List.Forall₂ Response.Alike (repliesUntilStop (answers lines.sent))
          (repliesIn (answers poster.sent)) ↔
        NoReplyAfterStop (answers lines.sent)) ∧
      ∀ (hub : Hub) (arrival : Arrival), hub.config.transport.servesHttp = true →
        arrival.Sends hub.config none →
        (∀ request, Request.ofBytes? arrival.request.body = some request →
          request.method ≠ "initialize") →
        let turn := hub.server.handle ⟨hub.clock, arrival.elapsed⟩ true arrival.request.body
        hub.Serves (hub.request arrival).1 turn.server ∧
          (hub.request arrival).2.json? = turn.answer.reply?.map Response.text ∧
          ∀ cause, (hub.request arrival).2 = .stopped cause ↔ turn.answer = .stopped cause := by
  intro answers streamHub postHub
  obtain ⟨hlinesTime, hreaderTime, hposterTime⟩ : timeSent lines.sent ≤ longestDuration ∧
      timeSent reader.sent ≤ longestDuration ∧ timeSent poster.sent ≤ longestDuration := by
    simpa using htime
  have hreader : reader.sent.map Sent.message = poster.sent.map Sent.message :=
    reader.map_message_sent.trans poster.map_message_sent.symm
  have hwritten : lines.sent.map Sent.message = poster.sent.map Sent.message :=
    lines.map_message_sent.trans poster.map_message_sent.symm
  have hfresh : poster.greeting.freshId ∉ postHub.sessions.ids := List.not_mem_nil
  have hfresh' : reader.connect.freshId ∉ streamHub.sessions.ids := List.not_mem_nil
  obtain ⟨-, -, hissued, -⟩ := Hub.request_greeting hposts poster.greets hfresh
    poster.isGreeting poster.pauses_lt
  refine ⟨lines.written_eq hlines _ _ _, reader.eventsIn_frames_eq_iff rfl hstreams hfresh',
    poster.bodies_eq rfl hposts hfresh, hissued,
    repliesIn_alike (Server.start_answers_alike false hreader hreaderTime hposterTime),
    repliesUntilStop_alike_iff (Server.start_answers_alike false hwritten hlinesTime hposterTime),
    fun hub arrival hserved hsends hother => Hub.request_without_session hserved hsends hother⟩

/-! ### A visit at the last instant -/

/-- A text that greets the server. -/
def greetingText : String :=
  "\x7b\"jsonrpc\":\"2.0\",\"id\":1,\"method\":\"initialize\"\x7d"

/-- A text that asks whether the server is there. -/
def pingText : String :=
  "\x7b\"jsonrpc\":\"2.0\",\"id\":2,\"method\":\"ping\"\x7d"

lemma ofBytes_greetingText :
    Request.ofBytes? (.ofText greetingText) =
      some ⟨"2.0", some (.number 1), "initialize", none⟩ := by
  have hscan : Json.scan (Text.trimmed greetingText.toList) = some [
      .openObject, .text (some "jsonrpc"), .colon, .text (some "2.0"), .comma,
      .text (some "id"), .colon, .number ⟨false, ['1'], [], none⟩, .comma,
      .text (some "method"), .colon, .text (some "initialize"), .closeObject] := by
    decide +kernel
  rw [Request.ofBytes_ofText (by decide), Json.Tree.ofText?, hscan]
  cbv

lemma ofBytes_pingText :
    Request.ofBytes? (.ofText pingText) = some ⟨"2.0", some (.number 2), "ping", none⟩ := by
  have hscan : Json.scan (Text.trimmed pingText.toList) = some [
      .openObject, .text (some "jsonrpc"), .colon, .text (some "2.0"), .comma,
      .text (some "id"), .colon, .number ⟨false, ['2'], [], none⟩, .comma,
      .text (some "method"), .colon, .text (some "ping"), .closeObject] := by
    decide +kernel
  rw [Request.ofBytes_ofText (by decide), Json.Tree.ofText?, hscan]
  cbv

/-- A greeting, a question that is not answered at the last instant, and a `ping`. -/
def visitMessages : List Bytes :=
  [.ofText greetingText, .ofText Server.worldTimesText, .ofText pingText]

lemma isLine_visitMessages : ∀ message ∈ visitMessages, IsLine message := by
  simp only [visitMessages, List.forall_mem_cons, List.not_mem_nil, false_imp_iff, implies_true,
    and_true]
  refine ⟨⟨?_, ?_, ?_⟩, ⟨?_, ?_, ?_⟩, ?_, ?_, ?_⟩ <;> decide +kernel

/-- At the last instant the request for the times in some cities comes to a stop. -/
lemma Server.handle_worldTimesText (server : Server) (elapsed : Duration)
    (h : Zone.ofName "Asia/Tokyo" server.zones = .ok .tokyo) :
    ∃ cause, server.handle ⟨lastInstant, elapsed⟩ true (.ofText worldTimesText) =
      ⟨server, true, .stopped cause⟩ := by
  have hbreaks : worldTimesRequest.BreaksDown server ⟨lastInstant, elapsed⟩ true :=
    breaksDown_worldTimesRequest elapsed h
  have hcorrelated :=
    (Course.of_handle server ⟨lastInstant, elapsed⟩ true ofBytes_worldTimesText).correlated rfl
  have hturn : server.handle ⟨lastInstant, elapsed⟩ true (.ofText worldTimesText) =
      ⟨server, true, worldTimesRequest.told
        (answerReading server.zones ⟨lastInstant, elapsed⟩ server.metrics worldTimesRequest)⟩ := by
    have hmethod : Method.ofName? worldTimesRequest.method = some .readResource := by decide
    simp only [handle, ofBytes_worldTimesText]
    rw [handleRequest, if_neg (by decide), if_neg (by decide), carryOut_of_greeted]
    simp only [dispatch, hmethod]
  rw [hturn] at hcorrelated ⊢
  dsimp only at hcorrelated
  generalize worldTimesRequest.told _ = answer at hcorrelated ⊢
  cases hcorrelated with
  | silence hready hrange => exact absurd hbreaks hrange
  | stopped cause hready hrange => exact ⟨cause, rfl⟩
  | reply hid hready hrange => exact absurd hbreaks hrange

/-- The answers to the messages at the last instant. -/
lemma answers_visit (limit : Duration) :
    ∃ cause, (Server.start limit).answers false Server.lastInstant
        (visitMessages.map fun message => ⟨message, 0⟩) =
      [.reply (.success (some (.number 1)) (greetingResult none)), .stopped cause,
        .reply (.success (some (.number 2)) (.obj []))] := by
  obtain ⟨cause, hstopped⟩ := (Server.start limit).handle_worldTimesText 0 Zone.ofName_tokyo
  have hgreeting (moment : Moment) : (Server.start limit).handle moment false
      (.ofText greetingText) = ⟨.start limit, true,
        .reply (.success (some (.number 1)) (greetingResult none))⟩ := by
    simp only [Server.handle, ofBytes_greetingText]
    rfl
  have hping (moment : Moment) : (Server.start limit).handle moment true (.ofText pingText) =
      ⟨.start limit, true, .reply (.success (some (.number 2)) (.obj []))⟩ := by
    simp only [Server.handle, ofBytes_pingText]
    rfl
  refine ⟨cause, ?_⟩
  simp only [visitMessages, List.map_cons, List.map_nil, Server.answers, hgreeting, hstopped,
    hping]

/-- A client that sends the messages in one piece. -/
def visitLines : LineClient visitMessages where
  pieces := [streamOf visitMessages]
  elapsed _ := 0
  pieces_eq := by simp

/-- The standard configuration with some transport. -/
def configWith (transport : Transport) : Config :=
  { Config.standard with transport }

/-- A message that is posted for the stream of a session. -/
def streamPost (message : Bytes) : Arrival :=
  ⟨⟨"POST", "/messages?sessionId=first", [], message⟩, "second", 0⟩

/-- A message that is posted with some headers, to be answered at once. -/
def directPost (headers : List (String × String)) (message : Bytes) : Arrival :=
  ⟨⟨"POST", "/http", headers, message⟩, "first", 0⟩

variable {message : Bytes}

lemma IsLine.not_isTooLong (h : IsLine message) {request : HttpRequest}
    (hbody : request.body = message) : request.isTooLong = false := by
  rw [HttpRequest.isTooLong, hbody, decide_eq_false (Nat.not_lt.2 h.length_lt.le)]

lemma IsLine.postsForStream (h : IsLine message) :
    (streamPost message).PostsForStream (configWith .sse) "first" where
  asks :=
    have hpath : (Target.ofText "/messages?sessionId=first").path = "/messages" := by decide
    ⟨rfl, hpath, rfl⟩
  fits := h.not_isTooLong rfl
  names :=
    have hquery : queriedSession (Target.ofText "/messages?sessionId=first").query =
        .given "first".toUTF8.toList := by decide +kernel
    ⟨"first".toUTF8.toList, hquery, by decide +kernel⟩

lemma IsLine.sends (h : IsLine message) {headers : List (String × String)} {id : Option String}
    (hid : (directPost headers []).request.header? sessionHeader = id) :
    (directPost headers message).Sends (configWith .http) id where
  asks :=
    have hpath : (Target.ofText "/http").path = "/http" := by decide
    ⟨rfl, hpath, rfl⟩
  fits := h.not_isTooLong rfl
  header_eq := hid

/-- A client that opens a stream, posts the messages for it, and reads the stream when all have been
posted. -/
def visitReader : StreamClient (configWith .sse) visitMessages where
  connect := ⟨⟨"GET", "/sse", [], []⟩, "first", 0⟩
  acts := visitMessages.map (StreamAct.post ∘ streamPost)
  asks := ⟨rfl, by decide, rfl⟩
  posts := by
    intro arrival harrival
    obtain ⟨message, hmessage, heq⟩ := List.mem_map.1 harrival
    cases heq
    exact (isLine_visitMessages message hmessage).postsForStream
  messages_eq := rfl

/-- A client that posts the messages in a session, without a pause. -/
def visitPoster : HttpClient (configWith .http) visitMessages where
  greeting := directPost [] (.ofText greetingText)
  later := visitMessages.tail.map fun message =>
    (0, directPost [("Mcp-Session-Id", "first")] message)
  greets := (isLine_visitMessages _ List.mem_cons_self).sends (by decide)
  isGreeting := ⟨_, ofBytes_greetingText, rfl, rfl, rfl⟩
  readable := by decide
  sends := by
    intro post hpost
    obtain ⟨message, hmessage, rfl⟩ := List.mem_map.1 hpost
    exact (isLine_visitMessages message (List.mem_of_mem_tail hmessage)).sends
      (by decide +kernel)
  messages_eq := rfl
  pauses_lt := by decide

/-- What the three clients get at the last instant. -/
theorem transport_independence_visit :
    let answers := (Server.start Config.standard.toolTimeout).answers false Server.lastInstant
    (∀ message ∈ visitMessages, IsLine message) ∧
      (∀ sent ∈ [visitLines.sent, visitReader.sent, visitPoster.sent],
        timeSent sent ≤ longestDuration) ∧
      visitLines.written Config.standard.toolTimeout Server.lastInstant =
        linesOfReplies (repliesUntilStop (answers visitLines.sent)) ∧
      eventsIn (visitReader.frames (.start (configWith .sse) Server.lastInstant)) =
        eventText "endpoint" "/messages?sessionId=first" ::
          (repliesIn (answers visitReader.sent)).map replyEvent ∧
      visitPoster.bodies (.start (configWith .http) Server.lastInstant) =
        (repliesIn (answers visitPoster.sent)).map Response.text := by
  have htime : ∀ sent ∈ [visitLines.sent, visitReader.sent, visitPoster.sent],
      timeSent sent ≤ longestDuration := by
    decide +kernel
  obtain ⟨hwritten, hevents, hbodies, -⟩ := transport_independence Config.standard
    Server.lastInstant Zone.find? isLine_visitMessages rfl rfl visitLines visitReader visitPoster
    htime
  exact ⟨isLine_visitMessages, htime, hwritten, hevents.2 (by decide +kernel), hbodies⟩

/-- On the network a client gets a reply after the request that stays without one. With lines it
gets none. -/
theorem transport_dependence :
    (∀ message ∈ visitMessages, IsLine message) ∧
      visitLines.written Config.standard.toolTimeout Server.lastInstant =
        linesOfReplies [.success (some (.number 1)) (greetingResult none)] ∧
      visitPoster.bodies (.start (configWith .http) Server.lastInstant) =
        [.success (some (.number 1)) (greetingResult none),
          .success (some (.number 2)) (.obj [])].map Response.text := by
  have hlines : visitLines.sent = visitMessages.map fun message => ⟨message, 0⟩ := rfl
  have hposter : visitPoster.sent = visitMessages.map fun message => ⟨message, 0⟩ := rfl
  have hfresh : visitPoster.greeting.freshId ∉
      (Hub.start (configWith .http) Server.lastInstant).sessions.ids := List.not_mem_nil
  obtain ⟨cause, hanswers⟩ := answers_visit Config.standard.toolTimeout
  refine ⟨isLine_visitMessages, ?_, ?_⟩
  · rw [visitLines.written_eq isLine_visitMessages, hlines, hanswers]
    rfl
  · rw [visitPoster.bodies_eq rfl rfl hfresh]
    exact congrArg (fun answers => (repliesIn answers).map Response.text) (hposter ▸ hanswers)

end WorldClock
