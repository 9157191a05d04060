import WorldClock.Proofs.Hub.Course
import WorldClock.Proofs.Mcp.Answers
import WorldClock.Proofs.Mcp.Handshake
/-!
# Clients that are answered at once

A client greets the server and then posts messages in the session that it was given. What it gets
are the replies to its messages, as long as it does not wait longer than sessions may be idle
(`HttpClient.bodies_eq`). A message other than a greeting can also be posted without a session, and
is answered as on a session that counts as greeted (`Hub.request_without_session`).
-/

namespace WorldClock

/-! ### Responses -/

/-- The JSON text in a reaction, if there is one. -/
def Reaction.json? : Reaction → Option String
  | .response answer =>
    if ("content-type", "application/json") ∈ answer.headers then some answer.body else none
  | .stream _ _ | .waiting _ | .stopped _ => none

/-- More headers make no difference to the JSON text. -/
lemma Reaction.json?_mapResponse {change : HttpResponse → HttpResponse}
    (hbody : ∀ response, (change response).body = response.body)
    (hheaders : ∀ response, ∃ more, (change response).headers = response.headers ++ more ∧
      ("content-type", "application/json") ∉ more) (reaction : Reaction) :
    (reaction.mapResponse change).json? = reaction.json? := by
  cases reaction with
  | response response =>
    obtain ⟨more, heq, hmore⟩ := hheaders response
    simp only [mapResponse, json?, hbody, heq, List.mem_append, hmore, or_false]
  | stream | waiting | stopped => rfl

/-! ### Requests -/

/-- A message of limited size is posted to be answered at once, in the session that a header names
or without one. -/
structure Arrival.Sends (config : Config) (arrival : Arrival) (id : Option String) : Prop where
  asks : arrival.Asks config "POST" "/http"
  fits : arrival.request.isTooLong = false
  header_eq : arrival.request.header? sessionHeader = id

lemma Reaction.mapResponse_eq_stopped_iff (change : HttpResponse → HttpResponse)
    (reaction : Reaction) (cause : Breakdown) :
    reaction.mapResponse change = .stopped cause ↔ reaction = .stopped cause := by
  cases reaction <;> simp [mapResponse]

namespace Hub

lemma reactionTo_eq_stopped_iff (answer : Answer) (cause : Breakdown) :
    reactionTo answer = .stopped cause ↔ answer = .stopped cause := by
  cases answer <;> simp [reactionTo]

lemma json?_reactionTo (answer : Answer) :
    (reactionTo answer).json? = answer.reply?.map Response.text := by
  cases answer <;> simp [reactionTo, Reaction.json?, Answer.reply?, HttpResponse.bare,
    HttpResponse.json, Response.text]

@[simp] lemma json?_complete (method : String) (reaction : Reaction) :
    (reaction.mapResponse (complete .rpc method)).json? = reaction.json? := by
  refine Reaction.json?_mapResponse (fun response => ?_) (fun response => ?_) reaction
  · rw [complete_rpc]
    rfl
  · rw [complete_rpc]
    exact ⟨[("access-control-allow-origin", "*"), ("access-control-expose-headers", "*")],
      by simp [HttpResponse.shared, HttpResponse.withHeader], by decide⟩

@[simp] lemma json?_withHeader (id : String) (reaction : Reaction) :
    (reaction.mapResponse fun response => response.withHeader sessionHeader id).json? =
      reaction.json? := by
  refine Reaction.json?_mapResponse (fun response => ?_) (fun response => ?_) reaction
  · rfl
  · exact ⟨[(sessionHeader, id)], rfl, by simp [sessionHeader]⟩

/-! ### Messages in a session -/

/-- An id leads to a session, which does not end if its client waits for some time more. Of the
session counts only whether the client has greeted. -/
inductive Hosts (hub : Hub) (id : String) (greeted : Bool) (wait : Duration) : Prop
  | intro {number : SessionNumber} {session : Session}
      (hfound : hub.sessions.find? id .http = some number)
      (hsession : hub.sessions[number]? = some session) (hgreeted : session.greeted = greeted)
      (hseen : session.lastSeen ≤ hub.time)
      (hidle : hub.time + wait < session.lastSeen + hub.config.sessionTtl)

variable {hub : Hub} {arrival : Arrival}

/-- A message that is posted to be answered at once is taken, and pages from everywhere may read the
response. -/
lemma request_of_posted (hserved : hub.config.transport.servesHttp = true)
    (hasks : arrival.Asks hub.config "POST" "/http") :
    hub.request arrival = ((hub.post arrival).1,
      (hub.post arrival).2.mapResponse (complete .rpc arrival.request.method)) := by
  have hroute : arrival.Asks hub.config "POST" Route.rpc.path := hasks
  have hpost : arrival.request.method ≠ "DELETE" := by
    rw [hasks.method_eq]
    decide
  rw [request_of_asks hroute (by decide) hserved]
  simp only [serve, hpost, if_false]

lemma request_of_sends {id : Option String} (hserved : hub.config.transport.servesHttp = true)
    (hsends : arrival.Sends hub.config id) :
    hub.request arrival = ((hub.post arrival).1,
      (hub.post arrival).2.mapResponse (complete .rpc arrival.request.method)) :=
  request_of_posted hserved hsends.asks

/-- A message that is no request is answered in the same way with and without a session. -/
lemma post_of_none (hfits : arrival.request.isTooLong = false)
    (hrequest : Request.ofBytes? arrival.request.body = none) :
    hub.post arrival = (hub, .response (.json 400 (Response.failure none .parseError).json)) := by
  simp only [post, hfits, hrequest, Bool.false_eq_true, if_false]

section

variable {request : Request} (hfits : arrival.request.isTooLong = false)
  (hrequest : Request.ofBytes? arrival.request.body = some request)
include hfits hrequest

lemma post_of_unnamed (hheader : arrival.request.header? sessionHeader = none) :
    hub.post arrival = hub.postWithoutSession arrival request := by
  simp only [post, hfits, hrequest, hheader, Bool.false_eq_true, if_false]

lemma post_of_named {id : String} {number : SessionNumber} {session : Session}
    (hheader : arrival.request.header? sessionHeader = some id) (hreadable : isReadable id = true)
    (hfound : hub.sessions.find? id .http = some number)
    (hsession : hub.sessions[number]? = some session) :
    hub.post arrival = hub.postInSession arrival number session request := by
  simp only [post, hfits, hrequest, hheader, hreadable, hfound, hsession, Bool.false_eq_true,
    if_false, Bool.not_true]

end

namespace Hosts

variable {id : String} {greeted : Bool} {wait : Duration}

/-- A message in a session is handled on the session. -/
lemma post (h : hub.Hosts id greeted wait) (hserved : hub.config.transport.servesHttp = true)
    (hsends : arrival.Sends hub.config (some id)) (hreadable : isReadable id = true) :
    let turn := hub.server.handle ⟨hub.clock, arrival.elapsed⟩ greeted arrival.request.body
    hub.Serves (hub.request arrival).1 turn.server ∧
      (hub.request arrival).2.json? = turn.answer.reply?.map Response.text ∧
      (hub.request arrival).1.Hosts id turn.greeted wait := by
  intro turn
  obtain @⟨number, session, hfound, hsession, rfl, hseen, hidle⟩ := h
  rw [request_of_sends hserved hsends, json?_complete]
  cases hrequest : Request.ofBytes? arrival.request.body with
  | none =>
    have hturn : turn = ⟨hub.server, session.greeted, .reply (.failure none .parseError)⟩ :=
      Server.handle_of_none _ _ _ hrequest
    rw [post_of_none hsends.fits hrequest, hturn]
    exact ⟨⟨rfl, rfl, rfl⟩, rfl, .intro hfound hsession rfl hseen hidle⟩
  | some request =>
    have hturn : turn = hub.server.handleRequest ⟨hub.clock, arrival.elapsed⟩ session.greeted
        request := by
      simp only [turn, Server.handle, hrequest]
    have hanswers : session.badge.answersTo id .http = true := by
      obtain ⟨found, hget, hanswers⟩ := Sessions.exists_of_find hfound
      rw [hsession, Option.some.injEq] at hget
      exact hget ▸ hanswers
    rw [post_of_named hsends.fits hrequest hsends.header_eq hreadable hfound hsession,
      postInSession, ← hturn, Sessions.modify_eq_set hsession]
    refine ⟨⟨rfl, rfl, rfl⟩, json?_reactionTo _, ?_⟩
    have hlt : number < hub.sessions.length := (List.getElem?_eq_some_iff.1 hsession).1
    exact .intro (Sessions.find_set hfound hanswers) (List.getElem?_set_self hlt) rfl le_rfl
      (hidle.trans_le (Nat.add_le_add_right hseen _))

lemma sweep (h : hub.Hosts id greeted wait) {now : Duration} (hnow : now ≤ hub.time + wait) :
    (hub.sweep now).Hosts id greeted wait := by
  obtain @⟨number, session, hfound, hsession, hgreeted, hseen, hidle⟩ := h
  obtain ⟨found, hget, hanswers⟩ := Sessions.exists_of_find hfound
  rw [hsession, Option.some.injEq] at hget
  subst hget
  obtain ⟨hregistered, -, hkind⟩ := Badge.answersTo_iff.1 hanswers
  have hlt : now - session.lastSeen < hub.config.sessionTtl :=
    (Nat.sub_le_sub_right hnow _).trans_lt
      (Nat.sub_lt_left_of_lt_add (hseen.trans (Nat.le_add_right _ _)) hidle)
  have hstays : (session.badge.expire .http hub.config.sessionTtl now).registered = true :=
    (Badge.registered_expire hkind).2 ⟨hregistered, hlt⟩
  have hstale : Sessions.isStale .http hub.config.sessionTtl now session = false := by
    rw [Sessions.isStale, Session.idle, decide_eq_false (Nat.not_le.2 hlt), Bool.and_false]
  refine .intro (Sessions.find_badges_map (Badge.isTame_expire _ _ _)
    (Sessions.badges_evictIdle ..) hfound hsession hstays) ?_ hgreeted hseen hidle
  simp [Hub.sweep, Sessions.evictIdle_eq_map, hsession, hstale]

/-- A session outlives a wait that is not too long. -/
lemma advance {pause : Duration} (h : hub.Hosts id greeted (pause + wait)) :
    hub.Serves (hub.advance pause) hub.server ∧ (hub.advance pause).Hosts id greeted wait := by
  have hlater {hub' : Hub} (h : hub'.Hosts id greeted (pause + wait)) :
      { hub' with time := hub'.time + pause }.Hosts id greeted wait := by
    obtain @⟨number, session, hfound, hsession, hgreeted, hseen, hidle⟩ := h
    exact .intro hfound hsession hgreeted (hseen.trans (Nat.le_add_right _ _))
      (by rwa [← Nat.add_assoc] at hidle)
  unfold Hub.advance
  dsimp only
  split_ifs
  · refine ⟨⟨rfl, rfl, rfl⟩, hlater (h.sweep ?_)⟩
    exact (Nat.div_mul_le_self _ _).trans (Nat.add_le_add_left (Nat.le_add_right _ _) _)
  · exact ⟨⟨rfl, rfl, rfl⟩, hlater h⟩

end Hosts

/-! ### Messages without a session -/

/-- A greeting that is to be answered opens a session, and its id is given out. -/
lemma request_greeting (hserved : hub.config.transport.servesHttp = true)
    (hsends : arrival.Sends hub.config none) (hfresh : arrival.freshId ∉ hub.sessions.ids)
    (hgreeting : IsGreeting arrival.request.body) {wait : Duration}
    (hwait : wait < hub.config.sessionTtl) :
    let turn := hub.server.handle ⟨hub.clock, arrival.elapsed⟩ false arrival.request.body
    hub.Serves (hub.request arrival).1 turn.server ∧
      (hub.request arrival).2.json? = turn.answer.reply?.map Response.text ∧
      (∃ response, (hub.request arrival).2 = .response response ∧
        ∀ id, response.Issues id ↔ id = arrival.freshId) ∧
      (hub.request arrival).1.Hosts arrival.freshId turn.greeted wait := by
  intro turn
  obtain ⟨request, hrequest, hversion, hid, hmethod⟩ := hgreeting
  have hnotification : request.isNotification = false := by
    simpa [Request.isNotification, Option.isNone_eq_false_iff] using hid
  have hturn : hub.server.handleRequest ⟨hub.clock, arrival.elapsed⟩ false request = turn := by
    simp only [turn, Server.handle, hrequest]
  have hanswer := Server.handleRequest_greet hub.server ⟨hub.clock, arrival.elapsed⟩ false hversion
    hmethod hnotification
  rw [hturn] at hanswer
  have hsuccess : isSuccess turn.answer = true := by
    rw [hanswer]
    rfl
  have hmethod' : request.method = Method.greet.name := hmethod
  rw [request_of_sends hserved hsends, json?_complete,
    post_of_unnamed hsends.fits hrequest hsends.header_eq, postWithoutSession, if_pos hmethod',
    hturn]
  dsimp only
  rw [if_pos hsuccess, json?_withHeader, json?_reactionTo,
    openSession_eq { hub with server := turn.server } hfresh]
  refine ⟨⟨rfl, rfl, rfl⟩, rfl, ?_, .intro (Sessions.find_append hfresh ?_)
    List.getElem?_concat_length rfl le_rfl ?_⟩
  · rw [hanswer]
    refine ⟨_, rfl, fun id => ?_⟩
    rw [issues_complete, HttpResponse.issues_withSession]
  · simp [newSession, Session.opened, Session.badge, Session.kind, Surface.kind]
  · exact Nat.add_lt_add_left hwait _

/-- A message other than a greeting that is posted without a session is answered as on a session
that counts as greeted. -/
lemma request_without_session (hserved : hub.config.transport.servesHttp = true)
    (hsends : arrival.Sends hub.config none)
    (hother : ∀ request, Request.ofBytes? arrival.request.body = some request →
      request.method ≠ "initialize") :
    let turn := hub.server.handle ⟨hub.clock, arrival.elapsed⟩ true arrival.request.body
    hub.Serves (hub.request arrival).1 turn.server ∧
      (hub.request arrival).2.json? = turn.answer.reply?.map Response.text ∧
      ∀ cause, (hub.request arrival).2 = .stopped cause ↔ turn.answer = .stopped cause := by
  intro turn
  rw [request_of_sends hserved hsends, json?_complete]
  cases hrequest : Request.ofBytes? arrival.request.body with
  | none =>
    have hturn : turn = ⟨hub.server, true, .reply (.failure none .parseError)⟩ :=
      Server.handle_of_none _ _ _ hrequest
    rw [post_of_none hsends.fits hrequest, hturn]
    exact ⟨⟨rfl, rfl, rfl⟩, rfl, by simp [Reaction.mapResponse]⟩
  | some request =>
    have hturn : turn = hub.server.handleRequest ⟨hub.clock, arrival.elapsed⟩ true request := by
      simp only [turn, Server.handle, hrequest]
    have hmethod : request.method ≠ Method.greet.name := hother request hrequest
    rw [post_of_unnamed hsends.fits hrequest hsends.header_eq, postWithoutSession, if_neg hmethod,
      ← hturn]
    refine ⟨⟨rfl, rfl, rfl⟩, json?_reactionTo _, fun cause => ?_⟩
    rw [Reaction.mapResponse_eq_stopped_iff, reactionTo_eq_stopped_iff]

/-- What comes of messages that are posted one after another, each after a pause. -/
def postAll (hub : Hub) : List (Duration × Arrival) → List Reaction
  | [] => []
  | (pause, arrival) :: posts =>
    let (hub', reaction) := (hub.advance pause).request arrival
    reaction :: hub'.postAll posts

/-- The replies to messages in a session come one for each that is due, in the order of the
messages. -/
lemma Hosts.postAll {id : String} {greeted : Bool} {posts : List (Duration × Arrival)}
    (h : hub.Hosts id greeted (posts.map Prod.fst).sum)
    (hserved : hub.config.transport.servesHttp = true) (hreadable : isReadable id = true)
    (hsends : ∀ post ∈ posts, post.2.Sends hub.config (some id)) :
    (hub.postAll posts).filterMap Reaction.json? =
      (repliesIn (hub.server.answers greeted hub.clock
        (posts.map fun post => ⟨post.2.request.body, post.2.elapsed⟩))).map Response.text := by
  induction posts generalizing hub greeted with
  | nil => rfl
  | cons post posts ih =>
    obtain ⟨pause, arrival⟩ := post
    obtain ⟨hfirst, hrest⟩ := List.forall_mem_cons.1 hsends
    rw [List.map_cons, List.sum_cons] at h
    obtain ⟨hserves, hhosts⟩ := h.advance
    rw [← hserves.config] at hserved hfirst
    obtain ⟨hserves', hjson, hhosts'⟩ := hhosts.post hserved hfirst hreadable
    rw [hserves.server, hserves.clock] at hserves' hjson hhosts'
    rw [← hserves'.config] at hserved
    have hmore := ih hhosts' hserved (by rwa [hserves'.config, hserves.config])
    rw [hserves'.server, hserves'.clock, hserves.clock] at hmore
    simp only [Hub.postAll, List.filterMap_cons, hjson, List.map_cons, Server.answers,
      repliesIn_cons, List.map_append, hmore]
    cases (hub.server.handle ⟨hub.clock, arrival.elapsed⟩ greeted
      arrival.request.body).answer.reply? <;> rfl

end Hub

/-! ### Clients -/

/-- A client that greets the server and then posts messages in the session that it is given, each
after a pause. -/
structure HttpClient (config : Config) (messages : List Bytes) where
  greeting : Arrival
  later : List (Duration × Arrival)
  greets : greeting.Sends config none
  isGreeting : IsGreeting greeting.request.body
  readable : isReadable greeting.freshId = true
  sends : ∀ post ∈ later, post.2.Sends config (some greeting.freshId)
  messages_eq : greeting.request.body :: later.map (fun post => post.2.request.body) = messages
  /-- The session is not ended for being idle. -/
  pauses_lt : (later.map Prod.fst).sum < config.sessionTtl

namespace HttpClient

variable {config : Config} {messages : List Bytes} (client : HttpClient config messages)

/-- The messages that the client sends. -/
def sent : List Sent :=
  ⟨client.greeting.request.body, client.greeting.elapsed⟩ ::
    client.later.map fun post => ⟨post.2.request.body, post.2.elapsed⟩

lemma map_message_sent : client.sent.map Sent.message = messages := by
  rw [sent, List.map_cons, List.map_map]
  exact client.messages_eq

/-- What comes of the messages. -/
def reactions (hub : Hub) : List Reaction :=
  (hub.request client.greeting).2 :: (hub.request client.greeting).1.postAll client.later

/-- The JSON texts that the client gets. -/
def bodies (hub : Hub) : List String :=
  (client.reactions hub).filterMap Reaction.json?

/-- The texts that the client gets are the replies to its messages. -/
theorem bodies_eq {hub : Hub} (hconfig : hub.config = config)
    (hserved : config.transport.servesHttp = true)
    (hfresh : client.greeting.freshId ∉ hub.sessions.ids) :
    client.bodies hub =
      (repliesIn (hub.server.answers false hub.clock client.sent)).map Response.text := by
  subst hconfig
  obtain ⟨hserves, hjson, -, hhosts⟩ := Hub.request_greeting hserved client.greets hfresh
    client.isGreeting client.pauses_lt
  have hsends : ∀ post ∈ client.later, post.2.Sends (hub.request client.greeting).1.config
      (some client.greeting.freshId) := by
    rw [hserves.config]
    exact client.sends
  rw [← hserves.config] at hserved
  have hmore := hhosts.postAll hserved client.readable hsends
  rw [hserves.server, hserves.clock] at hmore
  simp only [bodies, reactions, sent, List.filterMap_cons, hjson, Server.answers, repliesIn_cons,
    List.map_append, hmore]
  cases (hub.server.handle ⟨hub.clock, client.greeting.elapsed⟩ false
    client.greeting.request.body).answer.reply? <;> rfl

end HttpClient

end WorldClock
