import WorldClock.Proofs.Hub.Effects
import WorldClock.Proofs.Mcp.Turn
/-!
# Courses of requests

What a request does to the registry, by cases (`Hub.Course`): nothing, or it opens a stream with its
session, leaves a session without a stream, opens a session that is answered at once, uses one, or
ends one. All that is known of single requests is derived from `Hub.Course.of_request`, which is the
only place where the parts of a request are looked at in their order.
-/

namespace WorldClock

/-! ### Requests by what they ask for -/

/-- The path that a request is for. -/
abbrev Arrival.path (arrival : Arrival) : String := (Target.ofText arrival.request.target).path

/-- A request with the token, by a method, for a path. -/
structure Arrival.Asks (config : Config) (arrival : Arrival) (method path : String) : Prop where
  method_eq : arrival.request.method = method
  path_eq : arrival.path = path
  authorized : arrival.request.isAuthorized config.authToken = true

/-- A request is for one path. -/
lemma Arrival.Asks.path_unique {config : Config} {arrival : Arrival}
    {method method' path path' : String} (h : arrival.Asks config method path)
    (h' : arrival.Asks config method' path') : path = path' :=
  h.path_eq.symm.trans h'.path_eq

/-- A stream is asked for, or else only the headers that it would have. -/
def Arrival.Connects (config : Config) (arrival : Arrival) : Prop :=
  arrival.Asks config "GET" "/sse" ∨ arrival.Asks config "HEAD" "/sse"

lemma Arrival.Connects.path_eq {config : Config} {arrival : Arrival}
    (h : arrival.Connects config) : arrival.path = "/sse" := by
  obtain hget | hhead := h
  · exact hget.path_eq
  · exact hhead.path_eq

/-- A message is posted for the stream of the session with an id. -/
structure Arrival.PostsForStream (config : Config) (arrival : Arrival) (id : String) : Prop where
  asks : arrival.Asks config "POST" "/messages"
  fits : arrival.request.isTooLong = false
  names : ∃ bytes, queriedSession (Target.ofText arrival.request.target).query = .given bytes ∧
    Bytes.text? bytes = some id

/-- A message is posted in the session with an id, to be answered at once. -/
structure Arrival.Posts (config : Config) (arrival : Arrival) (id : String) : Prop where
  asks : arrival.Asks config "POST" "/http"
  fits : arrival.request.isTooLong = false
  decodes : ∃ request, Request.ofBytes? arrival.request.body = some request
  names : arrival.request.header? sessionHeader = some id
  readable : isReadable id = true

/-- The session with an id is to be ended. -/
structure Arrival.Deletes (config : Config) (arrival : Arrival) (id : String) : Prop where
  asks : arrival.Asks config "DELETE" "/http"
  names : arrival.request.header? sessionHeader = some id
  readable : isReadable id = true

lemma Arrival.PostsForStream.id_unique {config : Config} {arrival : Arrival} {id id' : String}
    (h : arrival.PostsForStream config id) (h' : arrival.PostsForStream config id') : id = id' := by
  obtain ⟨bytes, hquery, htext⟩ := h.names
  obtain ⟨bytes', hquery', htext'⟩ := h'.names
  rw [hquery, QueriedSession.given.injEq] at hquery'
  subst hquery'
  exact Option.some.inj (htext.symm.trans htext')

lemma Arrival.Posts.id_unique {config : Config} {arrival : Arrival} {id id' : String}
    (h : arrival.Posts config id) (h' : arrival.Posts config id') : id = id' :=
  Option.some.inj (h.names.symm.trans h'.names)

lemma Arrival.Deletes.id_unique {config : Config} {arrival : Arrival} {id id' : String}
    (h : arrival.Deletes config id) (h' : arrival.Deletes config id') : id = id' :=
  Option.some.inj (h.names.symm.trans h'.names)

/-- A request that can be given an id, if all else about it is right. -/
def Arrival.TakesId (arrival : Arrival) : Prop :=
  arrival.path = "/sse" ∨ arrival.path = "/http" ∧ arrival.request.header? sessionHeader = none

/-! ### Reactions by what they say -/

/-- Whether a reaction says that there is no such thing. -/
def Reaction.IsUnknown (reaction : Reaction) : Prop :=
  ∃ response, reaction = .response response ∧ response.status = 404

/-- Whether a response gives out the id of a session. -/
def HttpResponse.Issues (response : HttpResponse) (id : String) : Prop :=
  (sessionHeader, id) ∈ response.headers

/-- Whether a reaction gives out neither a stream nor the id of a session. -/
def Reaction.IsPlain : Reaction → Prop
  | .response answer => ∀ id, ¬ answer.Issues id
  | .stream _ _ => False
  | .waiting _ | .stopped _ => True

@[simp] lemma Reaction.isUnknown_response (response : HttpResponse) :
    (Reaction.response response).IsUnknown ↔ response.status = 404 := by
  simp [Reaction.IsUnknown]

@[simp] lemma Reaction.not_isUnknown_stopped (cause : Breakdown) :
    ¬ (Reaction.stopped cause).IsUnknown := by
  simp [Reaction.IsUnknown]

@[simp] lemma Reaction.not_isUnknown_waiting (ticket : Ticket) :
    ¬ (Reaction.waiting ticket).IsUnknown := by
  simp [Reaction.IsUnknown]

@[simp] lemma HttpResponse.not_issues_bare (status : Nat) (id : String) :
    ¬ (bare status).Issues id := by
  simp [Issues, bare]

@[simp] lemma HttpResponse.not_issues_text (status : Nat) (body id : String) :
    ¬ (text status body).Issues id := by
  simp [Issues, text, sessionHeader]

@[simp] lemma HttpResponse.not_issues_json (status : Nat) (body : Json) (id : String) :
    ¬ (json status body).Issues id := by
  simp [Issues, json, sessionHeader]

/-- Other headers give out nothing. -/
lemma HttpResponse.issues_withHeader {name : String} (h : name ≠ sessionHeader)
    (response : HttpResponse) (value id : String) :
    (response.withHeader name value).Issues id ↔ response.Issues id := by
  simp [Issues, withHeader, Ne.symm h]

/-- A response with the id of a session gives out this id. -/
lemma HttpResponse.issues_withSession (status : Nat) (body : Json) (given id : String) :
    ((json status body).withHeader sessionHeader given).Issues id ↔ id = given := by
  simp [Issues, withHeader, json, sessionHeader]

@[simp] lemma HttpResponse.issues_shared (response : HttpResponse) (id : String) :
    response.shared.Issues id ↔ response.Issues id := by
  rw [shared, issues_withHeader (by decide), issues_withHeader (by decide)]

/-- Completing a response keeps its status and gives out nothing. -/
@[simp] lemma status_complete (route : Route) (method : String) (response : HttpResponse) :
    (Hub.complete route method response).status = response.status := by
  unfold Hub.complete
  split_ifs <;> rfl

@[simp] lemma issues_complete (route : Route) (method : String) (response : HttpResponse)
    (id : String) : (Hub.complete route method response).Issues id ↔ response.Issues id := by
  unfold Hub.complete
  rw [HttpResponse.issues_shared]
  split_ifs <;> rfl

lemma isUnknown_mapResponse (route : Route) (method : String) (reaction : Reaction) :
    (reaction.mapResponse (Hub.complete route method)).IsUnknown ↔ reaction.IsUnknown := by
  cases reaction <;> simp [Reaction.mapResponse, Reaction.IsUnknown]

lemma isPlain_mapResponse (route : Route) (method : String) (reaction : Reaction) :
    (reaction.mapResponse (Hub.complete route method)).IsPlain ↔ reaction.IsPlain := by
  cases reaction <;> simp [Reaction.mapResponse, Reaction.IsPlain]

/-! ### Routes -/

lemma Route.ofPath_eq_some_iff {transport : Transport} {path : String} {route : Route} :
    Route.ofPath? transport path = some route ↔
      route.isServed transport = true ∧ path = route.path := by
  constructor
  · intro h
    have hfound := List.find?_some h
    simp only [Bool.and_eq_true, beq_iff_eq] at hfound
    exact ⟨hfound.1, hfound.2.symm⟩
  · rintro ⟨hserved, rfl⟩
    cases transport <;> cases route <;> first | rfl | cases hserved

namespace Hub

/-! ### Courses -/

/-- The ids of the sessions are their own, and there are only sessions that the transport has. -/
structure Sound (hub : Hub) : Prop where
  ids_nodup : hub.sessions.ids.Nodup
  served : ∀ badge ∈ hub.sessions.badges,
    badge.kind = .sse ∧ hub.config.transport.servesStreams = true ∨
      badge.kind = .http ∧ hub.config.transport.servesHttp = true

/-- A hub becomes another in which one more session is registered, under a new id. -/
structure Opens (hub hub' : Hub) (id : String) (kind : SessionKind)
    (links : List (SessionNumber × Bool)) : Prop where
  config : hub'.config = hub.config
  time : hub'.time = hub.time
  sessions : ∃ session, hub'.sessions = hub.sessions ++ [session] ∧
    session.badge = ⟨id, kind, true, hub.time⟩
  links : hub'.links = links

lemma Opens.badges {hub hub' : Hub} {id : String} {kind : SessionKind}
    {links : List (SessionNumber × Bool)} (h : hub.Opens hub' id kind links) :
    hub'.sessions.badges = hub.sessions.badges ++ [⟨id, kind, true, hub.time⟩] := by
  obtain ⟨session, hsessions, hbadge⟩ := h.sessions
  rw [hsessions, Sessions.badges, List.map_append, List.map_cons, List.map_nil, hbadge]
  rfl

/-- What can come of a request. -/
inductive Course (hub : Hub) (arrival : Arrival) : Hub → Reaction → Prop
  | quiet {hub' : Hub} {reaction : Reaction} (hquiet : hub.Quiet hub') (hplain : reaction.IsPlain)
      (hconnects : arrival.Connects hub.config → ∀ cause, reaction ≠ .stopped cause)
      (hmessage : ∀ id, arrival.PostsForStream hub.config id →
        (reaction.IsUnknown ↔ ¬ hub.sessions.Resolves id .sse))
      (hrpc : ∀ id, arrival.Posts hub.config id ∨ arrival.Deletes hub.config id →
        reaction.IsUnknown ∧ ¬ hub.sessions.Resolves id .http)
      (hspares : arrival.path = "/http" → hub'.sessions = hub.sessions) :
      Course hub arrival hub' reaction
  | connected {hub' : Hub} (response : HttpResponse)
      (hasks : arrival.Asks hub.config "GET" "/sse")
      (hserved : hub.config.transport.servesStreams = true)
      (hopens : hub.Opens hub' arrival.freshId .sse (hub.links ++ [(hub.sessions.length, true)]))
      (hannounces : hub'.announcement? hub.streams.length =
        some (eventText "endpoint" (endpointUrl hub.config.publicUrl arrival.freshId))) :
      Course hub arrival hub' (.stream response hub.streams.length)
  | stranded {hub' : Hub} (cause : Breakdown) (hconnects : arrival.Connects hub.config)
      (hserved : hub.config.transport.servesStreams = true)
      (hcr : '\r' ∈ (endpointUrl hub.config.publicUrl arrival.freshId).toList)
      (hopens : hub.Opens hub' arrival.freshId .sse hub.links) :
      Course hub arrival hub' (.stopped cause)
  | greeted {hub' : Hub} {response : HttpResponse} {request : Request} (result : Json)
      (hasks : arrival.Asks hub.config "POST" "/http")
      (hserved : hub.config.transport.servesHttp = true)
      (hheader : arrival.request.header? sessionHeader = none)
      (hrequest : Request.ofBytes? arrival.request.body = some request)
      (hmethod : request.method = "initialize")
      (hissues : ∀ id, response.Issues id ↔ id = arrival.freshId)
      (hbody : response.body = (Response.json ⟨request.id, .result result⟩).text)
      (hopens : hub.Opens hub' arrival.freshId .http hub.links) :
      Course hub arrival hub' (.response response)
  | used {hub' : Hub} {reaction : Reaction} {id : String} (hposts : arrival.Posts hub.config id)
      (hresolves : hub.sessions.Resolves id .http) (hplain : reaction.IsPlain)
      (hknown : ¬ reaction.IsUnknown)
      (hbecomes : hub.Becomes hub'
        (hub.sessions.badges.map (Badge.changeIf id .http (Badge.touch hub.time))) hub.links)
      (hspares : Sessions.Spares .sse hub.sessions hub'.sessions) :
      Course hub arrival hub' reaction
  | ended {hub' : Hub} {reaction : Reaction} {id : String}
      (hdeletes : arrival.Deletes hub.config id) (hresolves : hub.sessions.Resolves id .http)
      (hplain : reaction.IsPlain) (hknown : ¬ reaction.IsUnknown)
      (hbecomes : hub.Becomes hub'
        (hub.sessions.badges.map (Badge.changeIf id .http Badge.forget)) hub.links)
      (hspares : Sessions.Spares .sse hub.sessions hub'.sessions) :
      Course hub arrival hub' reaction

/-! ### Messages for streams -/

lemma streamSession_eq_none_iff {hub : Hub} {bytes : Bytes} {id : String}
    (htext : bytes.text? = some id) :
    hub.streamSession? bytes = none ↔ ¬ hub.sessions.Resolves id .sse := by
  rw [← Sessions.find_eq_none_iff]
  simp only [streamSession?, htext, Option.bind_eq_bind, Option.bind_some]
  cases hfind : hub.sessions.find? id .sse with
  | none => simp
  | some number =>
    obtain ⟨session, hget, -⟩ := Sessions.exists_of_find hfind
    simp [hget]

lemma exists_of_streamSession {hub : Hub} {bytes : Bytes} {number : SessionNumber}
    {session : Session} (h : hub.streamSession? bytes = some (number, session)) :
    hub.sessions[number]? = some session ∧ session.kind = .sse := by
  simp only [streamSession?, Option.bind_eq_bind, Option.bind_eq_some_iff, Option.some.injEq,
    Prod.mk.injEq] at h
  obtain ⟨id, -, number', hfind, session', hget, rfl, rfl⟩ := h
  obtain ⟨found, hget', hanswers⟩ := Sessions.exists_of_find hfind
  rw [hget', Option.some.injEq] at hget
  subst hget
  exact ⟨hget', (Badge.answersTo_iff.1 hanswers).2.2⟩

/-- A message that reaches a session is taken, or has to wait, or comes too late. -/
lemma reaction_hearForStream (hub : Hub) (elapsed : Duration) (number : SessionNumber)
    (session : Session) (message : Bytes) :
    (hub.hearForStream elapsed number session message).2.IsPlain ∧
      ¬ (hub.hearForStream elapsed number session message).2.IsUnknown := by
  have haccepted : (Reaction.response accepted).IsPlain ∧
      ¬ (Reaction.response accepted).IsUnknown :=
    ⟨HttpResponse.not_issues_text _ _, by simp [accepted, HttpResponse.text]⟩
  unfold hearForStream
  split
  · exact haccepted
  · exact ⟨trivial, by simp⟩
  · split
    · unfold deliver
      split
      · exact haccepted
      · exact ⟨trivial, by simp⟩
      · exact ⟨HttpResponse.not_issues_text _ _, by simp [HttpResponse.text]⟩
    · exact haccepted

lemma postForStream_spec (hub : Hub) (arrival : Arrival) (query : Bytes) :
    hub.Quiet (hub.postForStream arrival query).1 ∧
      (hub.postForStream arrival query).2.IsPlain := by
  unfold postForStream
  split
  · exact ⟨.refl hub, HttpResponse.not_issues_text _ _⟩
  · split_ifs
    · exact ⟨.refl hub, HttpResponse.not_issues_text _ _⟩
    · exact ⟨.refl hub, HttpResponse.not_issues_text _ _⟩
  · split_ifs
    · exact ⟨.refl hub, HttpResponse.not_issues_text _ _⟩
    · split
      · exact ⟨.refl hub, HttpResponse.not_issues_text _ _⟩
      · next hsession =>
        obtain ⟨hget, hkind⟩ := exists_of_streamSession hsession
        exact ⟨quiet_hearForStream hub _ hget hkind _, (reaction_hearForStream _ _ _ _ _).1⟩

lemma isUnknown_postForStream_iff {hub : Hub} {arrival : Arrival} {query bytes : Bytes}
    {id : String} (hquery : queriedSession query = .given bytes) (htext : bytes.text? = some id)
    (hfits : arrival.request.isTooLong = false) :
    (hub.postForStream arrival query).2.IsUnknown ↔ ¬ hub.sessions.Resolves id .sse := by
  rw [← streamSession_eq_none_iff htext]
  simp only [postForStream, hquery, hfits, Bool.false_eq_true, if_false]
  cases hsession : hub.streamSession? bytes with
  | none => simp [HttpResponse.text]
  | some entry => simp [(reaction_hearForStream _ _ _ _ _).2]

/-! ### Messages that are answered at once -/

lemma isPlain_reactionTo (answer : Answer) : (reactionTo answer).IsPlain := by
  cases answer with
  | silence => exact HttpResponse.not_issues_bare _
  | reply reply => exact HttpResponse.not_issues_json _ _
  | stopped cause => trivial

lemma not_isUnknown_reactionTo (answer : Answer) : ¬ (reactionTo answer).IsUnknown := by
  cases answer <;> simp [reactionTo, HttpResponse.bare, HttpResponse.json]

/-- A greeting that succeeds is answered with a result. -/
lemma exists_result_of_isSuccess {server : Server} {moment : Moment} {request : Request}
    (hmethod : request.method = Method.greet.name)
    (h : isSuccess (server.handleRequest moment false request).answer = true) :
    ∃ result, (server.handleRequest moment false request).answer =
      .reply ⟨request.id, .result result⟩ := by
  have hcourse := Server.Course.of_handleRequest server moment false request
  generalize server.handleRequest moment false request = turn at hcourse h
  have htold : ∀ error, isSuccess (request.told (.reply (.failure request.id error))) = false := by
    intro error
    unfold Request.told
    split_ifs <;> rfl
  cases hcourse with
  | otherVersion => simp [htold] at h
  | ungreeted hversion hmethod' => exact absurd hmethod hmethod'
  | greeting =>
    refine ⟨(greetingResult request.params).canonical, ?_⟩
    unfold Request.told at h ⊢
    split_ifs at h ⊢ with hnotification
    · cases h
    · rfl

/-- No response on this route loses its body. -/
lemma complete_rpc (method : String) (response : HttpResponse) :
    complete .rpc method response = response.shared := by
  have hhead : ¬ (method = "HEAD" && Route.rpc.methods.contains method) = true := by
    intro h
    simp only [Bool.and_eq_true, decide_eq_true_eq] at h
    rw [h.1] at h
    exact absurd h.2 (by decide)
  rw [complete, if_neg hhead]

lemma Course.quiet_rpc {hub hub' : Hub} {arrival : Arrival} {method : String}
    (hasks : arrival.Asks hub.config method "/http") (hquiet : hub.Quiet hub')
    (hsessions : hub'.sessions = hub.sessions) {reaction : Reaction} (hplain : reaction.IsPlain)
    (hrpc : ∀ id, arrival.Posts hub.config id ∨ arrival.Deletes hub.config id →
      reaction.IsUnknown ∧ ¬ hub.sessions.Resolves id .http) :
    Course hub arrival hub' reaction := by
  refine .quiet hquiet hplain ?_ ?_ hrpc fun _ => hsessions
  · intro hconnects
    exact absurd (hconnects.path_eq.symm.trans hasks.path_eq) (by decide)
  · intro id hmessage
    exact absurd (hmessage.asks.path_unique hasks) (by decide)

lemma not_deletes_of_post {config : Config} {arrival : Arrival}
    (hasks : arrival.Asks config "POST" "/http") (id : String) : ¬ arrival.Deletes config id := by
  intro hdeletes
  exact absurd (hasks.method_eq.symm.trans hdeletes.asks.method_eq) (by decide)

lemma not_posts_of_delete {config : Config} {arrival : Arrival}
    (hasks : arrival.Asks config "DELETE" "/http") (id : String) : ¬ arrival.Posts config id := by
  intro hposts
  exact absurd (hasks.method_eq.symm.trans hposts.asks.method_eq) (by decide)

/-- A message without the id of a session opens one if it is a greeting that succeeds. -/
lemma course_postWithoutSession {hub : Hub} {arrival : Arrival} {request : Request}
    (hfresh : arrival.freshId ∉ hub.sessions.ids) (hasks : arrival.Asks hub.config "POST" "/http")
    (hserved : hub.config.transport.servesHttp = true)
    (hrequest : Request.ofBytes? arrival.request.body = some request)
    (hheader : arrival.request.header? sessionHeader = none) (method : String) :
    Course hub arrival (hub.postWithoutSession arrival request).1
      ((hub.postWithoutSession arrival request).2.mapResponse (complete .rpc method)) := by
  have hquiet : ∀ server answer, Course hub arrival { hub with server }
      ((reactionTo answer).mapResponse (complete .rpc method)) := by
    intro server answer
    refine .quiet_rpc hasks (quiet_server hub server) rfl
      ((isPlain_mapResponse _ _ _).2 (isPlain_reactionTo answer)) ?_
    rintro id (hposts | hdeletes)
    · rw [hposts.names] at hheader
      cases hheader
    · exact absurd hdeletes (not_deletes_of_post hasks id)
  unfold postWithoutSession
  by_cases hmethod : request.method = Method.greet.name
  · rw [if_pos hmethod]
    dsimp only
    split_ifs with hsuccess
    · obtain ⟨result, hanswer⟩ := exists_result_of_isSuccess hmethod hsuccess
      generalize hub.server.handleRequest ⟨hub.clock, arrival.elapsed⟩ false request = turn
        at hanswer
      rw [hanswer, openSession_eq { hub with server := turn.server } hfresh]
      refine .greeted result hasks hserved hheader hrequest hmethod (fun id => ?_) ?_
        ⟨rfl, rfl, ⟨_, rfl, rfl⟩, rfl⟩
      · rw [issues_complete, HttpResponse.issues_withSession]
      · rw [complete_rpc]
        rfl
    · exact hquiet _ _
  · rw [if_neg hmethod]
    exact hquiet _ _

lemma course_postInSession {hub : Hub} {arrival : Arrival} {request : Request} {id : String}
    {number : SessionNumber} {session : Session} (hsound : hub.Sound)
    (hposts : arrival.Posts hub.config id) (hget : hub.sessions[number]? = some session)
    (hanswers : session.badge.answersTo id .http = true) (method : String) :
    Course hub arrival (hub.postInSession arrival number session request).1
      ((hub.postInSession arrival number session request).2.mapResponse
        (complete .rpc method)) := by
  have hkind : session.kind = .http := (Badge.answersTo_iff.1 hanswers).2.2
  refine .used hposts ⟨session.badge, List.mem_map_of_mem (List.mem_of_getElem? hget), hanswers⟩
    ((isPlain_mapResponse _ _ _).2 (isPlain_reactionTo _))
    (fun h => not_isUnknown_reactionTo _ ((isUnknown_mapResponse _ _ _).1 h))
    ⟨rfl, rfl, ?_, rfl⟩ ?_
  · simp only [postInSession, Sessions.modify_eq_set hget]
    exact Sessions.badges_set hsound.ids_nodup hget hanswers rfl
  · simp only [postInSession, Sessions.modify_eq_set hget]
    exact Sessions.spares_set hget (by simp [hkind]) _

lemma course_post {hub : Hub} {arrival : Arrival} (hsound : hub.Sound)
    (hfresh : arrival.TakesId → arrival.freshId ∉ hub.sessions.ids)
    (hasks : arrival.Asks hub.config "POST" "/http")
    (hserved : hub.config.transport.servesHttp = true) (method : String) :
    Course hub arrival (hub.post arrival).1
      ((hub.post arrival).2.mapResponse (complete .rpc method)) := by
  have hrefused : ∀ response : HttpResponse, (∀ id, ¬ response.Issues id) →
      (∀ id, arrival.Posts hub.config id →
        response.status = 404 ∧ ¬ hub.sessions.Resolves id .http) →
      Course hub arrival hub ((Reaction.response response).mapResponse (complete .rpc method)) := by
    intro response hissues hposts
    refine .quiet_rpc hasks (.refl hub) rfl ((isPlain_mapResponse _ _ _).2 hissues) ?_
    rintro id (hposts' | hdeletes)
    · obtain ⟨hstatus, hresolves⟩ := hposts id hposts'
      exact ⟨(isUnknown_mapResponse _ _ _).2 ⟨response, rfl, hstatus⟩, hresolves⟩
    · exact absurd hdeletes (not_deletes_of_post hasks id)
  unfold post
  by_cases hlong : arrival.request.isTooLong = true
  · rw [if_pos hlong]
    refine hrefused _ (HttpResponse.not_issues_text _ _) fun id hposts => ?_
    rw [hposts.fits] at hlong
    cases hlong
  rw [if_neg hlong]
  cases hrequest : Request.ofBytes? arrival.request.body with
  | none =>
    refine hrefused _ (HttpResponse.not_issues_json _ _) fun id hposts => ?_
    obtain ⟨request, hdecodes⟩ := hposts.decodes
    rw [hdecodes] at hrequest
    cases hrequest
  | some request =>
    dsimp only
    cases hheader : arrival.request.header? sessionHeader with
    | none =>
      exact course_postWithoutSession (hfresh (.inr ⟨hasks.path_eq, hheader⟩)) hasks hserved
        hrequest hheader method
    | some id =>
      dsimp only
      by_cases hreadable : isReadable id = true
      · rw [if_neg (by simp [hreadable])]
        have hposts : arrival.Posts hub.config id :=
          ⟨hasks, Bool.eq_false_iff.2 hlong, ⟨request, hrequest⟩, hheader, hreadable⟩
        cases hfind : hub.sessions.find? id .http with
        | none =>
          refine hrefused _ (HttpResponse.not_issues_text _ _) fun id' hposts' => ⟨rfl, ?_⟩
          have hid : id' = id := Option.some.inj (hposts'.names.symm.trans hheader)
          exact hid ▸ Sessions.find_eq_none_iff.1 hfind
        | some number =>
          obtain ⟨session, hget, hanswers⟩ := Sessions.exists_of_find hfind
          simp only [hget]
          exact course_postInSession hsound hposts hget hanswers method
      · rw [if_pos (by simp [hreadable])]
        refine hrefused _ (HttpResponse.not_issues_text _ _) fun id' hposts => ?_
        have hid : id' = id := Option.some.inj (hposts.names.symm.trans hheader)
        exact absurd (hid ▸ hposts.readable) hreadable

lemma course_delete {hub : Hub} {arrival : Arrival} (hsound : hub.Sound)
    (hasks : arrival.Asks hub.config "DELETE" "/http") (method : String) :
    Course hub arrival (hub.delete arrival.request).1
      ((Reaction.response (hub.delete arrival.request).2).mapResponse (complete .rpc method)) := by
  have hrefused : ∀ status, (∀ id, arrival.Deletes hub.config id →
        status = 404 ∧ ¬ hub.sessions.Resolves id .http) →
      Course hub arrival hub
        ((Reaction.response (.bare status)).mapResponse (complete .rpc method)) := by
    intro status hdeletes
    refine .quiet_rpc hasks (.refl hub) rfl
      ((isPlain_mapResponse _ _ _).2 (HttpResponse.not_issues_bare _)) ?_
    rintro id (hposts | hdeletes')
    · exact absurd hposts (not_posts_of_delete hasks id)
    · obtain ⟨hstatus, hresolves⟩ := hdeletes id hdeletes'
      exact ⟨(isUnknown_mapResponse _ _ _).2 ⟨_, rfl, hstatus⟩, hresolves⟩
  unfold delete
  cases hheader : (arrival.request.header? sessionHeader).filter isReadable with
  | none =>
    refine hrefused 400 fun id hdeletes => ?_
    rw [hdeletes.names, Option.filter_some, if_pos hdeletes.readable] at hheader
    cases hheader
  | some id =>
    obtain ⟨hnames, hreadable⟩ := Option.filter_eq_some_iff.1 hheader
    dsimp only
    cases hfind : hub.sessions.find? id .http with
    | none =>
      refine hrefused 404 fun id' hdeletes => ⟨rfl, ?_⟩
      have hid : id' = id := Option.some.inj (hdeletes.names.symm.trans hnames)
      exact hid ▸ Sessions.find_eq_none_iff.1 hfind
    | some number =>
      refine .ended ⟨hasks, hnames, hreadable⟩ (Sessions.resolves_of_find hfind)
        ((isPlain_mapResponse _ _ _).2 (HttpResponse.not_issues_bare _))
        (fun h => ?_) ⟨rfl, rfl, Sessions.badges_remove hsound.ids_nodup id .http, rfl⟩
        (Sessions.spares_remove (by decide) _ _)
      simp [isUnknown_mapResponse, HttpResponse.bare] at h

/-! ### Opening streams -/

lemma isSome_carriageReturn_iff (position : Nat) (cs : List Char) :
    (carriageReturn? position cs).isSome = true ↔ '\r' ∈ cs := by
  induction position, cs using carriageReturn?.induct with
  | case1 position => simp [carriageReturn?]
  | case2 position rest => simp [carriageReturn?]
  | case3 position rest ih => simpa [carriageReturn?] using ih
  | case4 position c rest hcr hnewline ih =>
    rw [carriageReturn?, ih, List.mem_cons]
    · exact (or_iff_right fun h => hcr h.symm).symm
    · exact hcr
    · exact hnewline

/-- A stream is opened unless there is no way to write its first event. -/
lemma course_events {hub : Hub} {arrival : Arrival} (hfresh : arrival.freshId ∉ hub.sessions.ids)
    (hserved : hub.config.transport.servesStreams = true)
    (hconnects : arrival.Connects hub.config) (query : Bytes) :
    Course hub arrival (hub.serve arrival query .events).1
      ((hub.serve arrival query .events).2.mapResponse
        (complete .events arrival.request.method)) := by
  have hpath : arrival.path = "/sse" := hconnects.path_eq
  simp only [serve]
  -- The first event is written even if only headers are wanted, so the fault comes first.
  cases hfault : hub.announcementFault? arrival.freshId with
  | some cause =>
    have hcr : '\r' ∈ (hub.endpoint arrival.freshId).toList := by
      rw [← isSome_carriageReturn_iff 0]
      simpa [announcementFault?] using congrArg Option.isSome hfault
    refine .stranded cause hconnects hserved hcr ?_
    rw [strandSession, openSession_eq hub hfresh]
    exact ⟨rfl, rfl, ⟨_, rfl, rfl⟩, rfl⟩
  | none =>
    dsimp only
    by_cases hhead : arrival.request.method = "HEAD"
    · rw [if_pos hhead]
      refine .quiet (.refl hub) ?_ (fun _ cause h => by cases h) ?_ ?_ fun h => rfl
      · refine (isPlain_mapResponse _ _ _).2 fun id h => ?_
        simp [HttpResponse.Issues, streamResponse, sessionHeader] at h
      · intro id hmessage
        exact absurd (hmessage.asks.path_eq.symm.trans hpath) (by decide)
      · rintro id (hposts | hdeletes)
        · exact absurd (hposts.asks.path_eq.symm.trans hpath) (by decide)
        · exact absurd (hdeletes.asks.path_eq.symm.trans hpath) (by decide)
    · rw [if_neg hhead]
      have hget : arrival.Asks hub.config "GET" "/sse" :=
        hconnects.resolve_right fun h => hhead h.method_eq
      refine .connected _ hget hserved ?_ (announcement_openStream hub hfresh)
      rw [openStream_eq hub hfresh]
      exact ⟨rfl, rfl, ⟨_, rfl, rfl⟩, by simp [links]⟩

/-! ### Requests as a whole -/

/-- A request that asks for what there is is served. -/
lemma request_of_asks {hub : Hub} {arrival : Arrival} {method : String} {route : Route}
    (hasks : arrival.Asks hub.config method route.path) (hmethod : method ∈ route.methods)
    (hserved : route.isServed hub.config.transport = true) :
    hub.request arrival =
      ((hub.serve arrival (Target.ofText arrival.request.target).query route).1,
        (hub.serve arrival (Target.ofText arrival.request.target).query route).2.mapResponse
          (complete route arrival.request.method)) := by
  have hfound : Route.ofPath? hub.config.transport (Target.ofText arrival.request.target).path =
      some route := Route.ofPath_eq_some_iff.2 ⟨hserved, hasks.path_eq⟩
  have hoptions : arrival.request.method ≠ "OPTIONS" := by
    rw [hasks.method_eq]
    rintro rfl
    cases route <;> simp [Route.methods] at hmethod
  have hcontains : route.methods.contains arrival.request.method = true := by
    rw [hasks.method_eq]
    simpa using hmethod
  simp only [request, hoptions, if_false, hfound, Hub.route, hasks.authorized, Bool.not_true,
    Bool.and_false, Bool.false_eq_true, hcontains]

lemma path_injective {route route' : Route} (h : route.path = route'.path) : route = route' := by
  cases route <;> cases route' <;> first | rfl | exact absurd h (by decide)

lemma not_issues_preflight (route : Option Route) (id : String) :
    ¬ (preflight route).Issues id := by
  cases route <;> simp [HttpResponse.Issues, preflight, sessionHeader]

lemma not_issues_listMethods {route : Route} {response : HttpResponse}
    (h : ∀ id, ¬ response.Issues id) (method id : String) :
    ¬ (route.listMethods method response).Issues id := by
  unfold Route.listMethods
  split_ifs
  · exact h id
  · rw [HttpResponse.issues_withHeader (by decide)]
    exact h id

/-- A request for a route that does not ask for a message or a stream leaves the hub alone. -/
lemma route_of_not_asks {hub : Hub} {arrival : Arrival} {route : Route}
    (hpath : arrival.path = route.path)
    (h : route.isGuarded = true → ∀ method ∈ route.methods,
      ¬ arrival.Asks hub.config method route.path) (query : Bytes) :
    ∃ response, hub.route arrival query route = (hub, .response response) ∧
      ∀ id, ¬ response.Issues id := by
  unfold Hub.route
  dsimp only
  split_ifs with hguarded hmethods
  · refine ⟨_, rfl, not_issues_listMethods (fun id => ?_) _⟩
    rw [unauthorized, HttpResponse.issues_withHeader (by decide)]
    exact HttpResponse.not_issues_text _ _ id
  · exact ⟨_, rfl, not_issues_listMethods (HttpResponse.not_issues_bare 405) _⟩
  · -- It may pass and is by a method of the route, so the route does not ask for a token.
    have hopen : route.isGuarded = false := by
      by_contra hguard
      rw [Bool.not_eq_false] at hguard
      simp only [hguard, Bool.true_and, Bool.not_eq_true', Bool.not_eq_false] at hguarded
      simp only [Bool.not_eq_true', Bool.not_eq_false, List.contains_iff_mem] at hmethods
      exact h hguard _ hmethods ⟨rfl, hpath, hguarded⟩
    cases route with
    | health => exact ⟨_, rfl, HttpResponse.not_issues_json _ _⟩
    | version => exact ⟨_, rfl, HttpResponse.not_issues_json _ _⟩
    | events | messages | rpc => cases hopen

/-- A request that asks for no message or stream that there is leaves the hub alone. -/
lemma request_of_not_asks {hub : Hub} {arrival : Arrival}
    (h : ∀ (method : String) (route : Route), route.isGuarded = true → method ∈ route.methods →
      route.isServed hub.config.transport = true → ¬ arrival.Asks hub.config method route.path) :
    (hub.request arrival).1 = hub ∧ ∃ response, (hub.request arrival).2 = .response response ∧
      (∀ id, ¬ response.Issues id) ∧
      ∀ (method : String) (route : Route), route.isGuarded = true → method ∈ route.methods →
        arrival.Asks hub.config method route.path → response.status = 404 := by
  unfold request
  dsimp only
  by_cases hoptions : arrival.request.method = "OPTIONS"
  · rw [if_pos hoptions]
    refine ⟨rfl, _, rfl, not_issues_preflight _, fun method route _ hmethod hasks => ?_⟩
    rw [← hasks.method_eq, hoptions] at hmethod
    cases route <;> simp [Route.methods] at hmethod
  rw [if_neg hoptions]
  cases hfound : Route.ofPath? hub.config.transport arrival.path with
  | none =>
    refine ⟨rfl, _, rfl, fun id => ?_, fun _ _ _ _ _ => rfl⟩
    rw [HttpResponse.issues_shared]
    exact HttpResponse.not_issues_bare 404 id
  | some found =>
    obtain ⟨hserved, hpath⟩ := Route.ofPath_eq_some_iff.1 hfound
    obtain ⟨response, hroute, hissues⟩ := route_of_not_asks hpath
      (fun hguard method hmethod => h method found hguard hmethod hserved)
      (Target.ofText arrival.request.target).query
    dsimp only
    rw [hroute]
    refine ⟨rfl, _, rfl, fun id => ?_, fun method route hguard hmethod hasks => ?_⟩
    · rw [issues_complete]
      exact hissues id
    · have hsame : route = found := path_injective (hasks.path_eq.symm.trans hpath)
      exact absurd hasks (h method route hguard hmethod (hsame ▸ hserved))

/-- An id leads to a session only on a surface that the transport has. -/
lemma Sound.served_of_resolves {hub : Hub} (hsound : hub.Sound) {id : String} {kind : SessionKind}
    (h : hub.sessions.Resolves id kind) :
    kind = .sse ∧ hub.config.transport.servesStreams = true ∨
      kind = .http ∧ hub.config.transport.servesHttp = true := by
  obtain ⟨badge, hbadge, hanswers⟩ := h
  exact (Badge.answersTo_iff.1 hanswers).2.2 ▸ hsound.served badge hbadge

/-- The course of a message that is posted for a stream. -/
lemma course_messages {hub : Hub} {arrival : Arrival}
    (hasks : arrival.Asks hub.config "POST" "/messages") (method : String) :
    Course hub arrival
      (hub.postForStream arrival (Target.ofText arrival.request.target).query).1
      ((hub.postForStream arrival (Target.ofText arrival.request.target).query).2.mapResponse
        (complete .messages method)) := by
  obtain ⟨hquiet, hplain⟩ :=
    postForStream_spec hub arrival (Target.ofText arrival.request.target).query
  refine .quiet hquiet ((isPlain_mapResponse _ _ _).2 hplain) ?_ ?_ ?_ ?_
  · intro hconnects
    exact absurd (hconnects.path_eq.symm.trans hasks.path_eq) (by decide)
  · intro id hmessage
    obtain ⟨bytes, hquery, htext⟩ := hmessage.names
    rw [isUnknown_mapResponse]
    exact isUnknown_postForStream_iff hquery htext hmessage.fits
  · rintro id (hposts | hdeletes)
    · exact absurd (hposts.asks.path_unique hasks) (by decide)
    · exact absurd (hdeletes.asks.path_unique hasks) (by decide)
  · intro hpath
    exact absurd (hpath.symm.trans hasks.path_eq) (by decide)

/-- What comes of a request is one of the courses. -/
theorem Course.of_request {hub : Hub} {arrival : Arrival} (hsound : hub.Sound)
    (hfresh : arrival.TakesId → arrival.freshId ∉ hub.sessions.ids) :
    Course hub arrival (hub.request arrival).1 (hub.request arrival).2 := by
  by_cases h : ∀ (method : String) (route : Route), route.isGuarded = true →
      method ∈ route.methods → route.isServed hub.config.transport = true →
      ¬ arrival.Asks hub.config method route.path
  · obtain ⟨hhub, response, hresponse, hissues, hunknown⟩ := request_of_not_asks h
    rw [hhub, hresponse]
    refine .quiet (.refl hub) hissues (fun _ cause h => by cases h) ?_ ?_ fun _ => rfl
    · intro id hmessage
      refine iff_of_true ⟨_, rfl, hunknown "POST" .messages rfl (by decide) hmessage.asks⟩ ?_
      -- A session that the id leads to would show that the transport has the route.
      intro hresolves
      obtain ⟨-, hserved⟩ | ⟨hkind, -⟩ := hsound.served_of_resolves hresolves
      · exact h "POST" .messages rfl (by decide) hserved hmessage.asks
      · cases hkind
    · intro id hrpc
      obtain ⟨method, hmethod, hasks⟩ : ∃ method ∈ Route.rpc.methods,
          arrival.Asks hub.config method "/http" := by
        obtain hposts | hdeletes := hrpc
        · exact ⟨"POST", by decide, hposts.asks⟩
        · exact ⟨"DELETE", by decide, hdeletes.asks⟩
      refine ⟨⟨_, rfl, hunknown method .rpc rfl hmethod hasks⟩, fun hresolves => ?_⟩
      obtain ⟨hkind, -⟩ | ⟨-, hserved⟩ := hsound.served_of_resolves hresolves
      · cases hkind
      · exact h method .rpc rfl hmethod hserved hasks
  · push Not at h
    obtain ⟨method, route, hguarded, hmethod, hserved, hasks⟩ := h
    rw [request_of_asks hasks hmethod hserved]
    cases route with
    | health | version => cases hguarded
    | events =>
      simp only [Route.methods, List.mem_cons, List.not_mem_nil, or_false] at hmethod
      obtain rfl | rfl := hmethod
      · exact course_events (hfresh (.inl hasks.path_eq)) hserved (.inl hasks) _
      · exact course_events (hfresh (.inl hasks.path_eq)) hserved (.inr hasks) _
    | messages =>
      simp only [Route.methods, List.mem_cons, List.not_mem_nil, or_false] at hmethod
      subst hmethod
      exact course_messages hasks _
    | rpc =>
      simp only [Route.methods, List.mem_cons, List.not_mem_nil, or_false] at hmethod
      obtain rfl | rfl := hmethod
      · have hdelete : arrival.request.method ≠ "DELETE" := by
          rw [hasks.method_eq]
          decide
        simp only [serve, hdelete, if_false]
        exact course_post hsound hfresh hasks hserved _
      · simp only [serve, hasks.method_eq, if_true]
        exact course_delete hsound hasks _

end Hub

end WorldClock
