import WorldClock.Proofs.Hub.Registered
/-!
# Uses of sessions

Of the sessions that are answered at once the registry knows when each was last active. A greeting
that succeeds and a message that is posted in a session are noted there and then, and nothing else
is (`Hub.attends_request`). This needs no new ids: a session whose id is given out again is taken
out of the registry.
-/

namespace WorldClock

/-! ### Sessions that are answered at once -/

namespace Sessions

/-- No session that is answered at once becomes registered, and those that stay so keep their
badges. -/
def Retains (sessions sessions' : Sessions) : Prop :=
  ∀ badge ∈ sessions'.badges, badge.registered = true → badge.kind = .http →
    badge ∈ sessions.badges

variable {sessions sessions' sessions'' : Sessions}

lemma retains_of_badges (h : sessions'.badges = sessions.badges) : sessions.Retains sessions' :=
  fun _ hbadge _ _ => h ▸ hbadge

lemma Retains.trans (h : sessions.Retains sessions') (h' : sessions'.Retains sessions'') :
    sessions.Retains sessions'' :=
  fun badge hbadge hreg hkind => h badge (h' badge hbadge hreg hkind) hreg hkind

/-- Sessions of which some are taken out. -/
lemma retains_map {f : Session → Session}
    (h : ∀ session, f session = session ∨ f session = forget session) :
    sessions.Retains (sessions.map f) := by
  intro badge hbadge hreg _
  simp only [badges, List.map_map, List.mem_map, Function.comp_apply] at hbadge
  obtain ⟨session, hsession, rfl⟩ := hbadge
  obtain hsame | hforgotten := h session
  · rw [hsame]
    exact List.mem_map_of_mem hsession
  · rw [hforgotten] at hreg
    cases hreg

lemma retains_remove (sessions : Sessions) (id : String) (kind : SessionKind) :
    sessions.Retains (sessions.remove id kind) := by
  unfold remove
  cases hfind : sessions.find? id kind with
  | none => exact retains_of_badges rfl
  | some number =>
    obtain ⟨session, hget, -⟩ := exists_of_find hfind
    intro badge hbadge hreg _
    dsimp only at hbadge
    rw [modify_eq_set hget] at hbadge
    obtain ⟨session', hsession', rfl⟩ := List.mem_map.1 hbadge
    obtain hold | rfl := List.mem_or_eq_of_mem_set hsession'
    · exact List.mem_map_of_mem hold
    · cases hreg

lemma retains_evictIdle (sessions : Sessions) (kind : SessionKind) (limit now : Duration) :
    sessions.Retains (sessions.evictIdle kind limit now) := by
  rw [evictIdle_eq_map]
  refine retains_map fun session => ?_
  split_ifs
  · exact .inr rfl
  · exact .inl rfl

lemma retains_clear (sessions : Sessions) : sessions.Retains sessions.clear :=
  retains_map fun _ => .inr rfl

/-- A session that is registered is the new one, or it was there before under another id. -/
lemma mem_badges_register {session : Session} {badge : Badge}
    (hbadge : badge ∈ badges (register (sessions ++ [session]) sessions.length))
    (hreg : badge.registered = true) :
    badge = { session with registered := true : Session }.badge ∨
      badge.id ≠ session.id ∧ badge ∈ sessions.badges := by
  rw [register_concat, badges, List.map_append, List.mem_append, List.map_singleton,
    List.mem_singleton] at hbadge
  obtain hold | rfl := hbadge
  · simp only [List.map_map, List.mem_map, Function.comp_apply] at hold
    obtain ⟨other, hother, rfl⟩ := hold
    split_ifs at hreg ⊢ with hid
    · cases hreg
    · exact .inr ⟨fun heq => hid (beq_iff_eq.2 heq), List.mem_map_of_mem hother⟩
  · exact .inl rfl

end Sessions

/-! ### Uses -/

namespace Entry

variable {config : Config} {entry : Entry} {arrival : Arrival} {reaction : Reaction} {id : String}

lemma not_uses_of_not_asks (hhappening : entry.happening = .request arrival)
    (hasks : ¬ arrival.Asks config "POST" "/http") : ¬ entry.Uses config id := by
  rintro (⟨_, _, _, _, hrequest, hasks', -⟩ | ⟨_, hrequest, hposts⟩)
  · exact hasks (Happening.request.inj (hhappening.symm.trans hrequest) ▸ hasks')
  · exact hasks (Happening.request.inj (hhappening.symm.trans hrequest) ▸ hposts.asks)

/-- A request that gives out nothing uses the session that it posts in. -/
lemma uses_iff_posts (hhappening : entry.happening = .request arrival)
    (hreaction : entry.reaction = some reaction) (hplain : reaction.IsPlain) :
    entry.Uses config id ↔ arrival.Posts config id := by
  constructor
  · rintro (⟨_, _, response, _, -, -, -, -, -, hresponse, hissues, -⟩ | ⟨_, hrequest, hposts⟩)
    · obtain rfl : reaction = .response response := Option.some.inj (hreaction.symm.trans hresponse)
      exact absurd hissues (hplain id)
    · exact Happening.request.inj (hhappening.symm.trans hrequest) ▸ hposts
  · exact fun hposts => .inr ⟨arrival, hhappening, hposts⟩

end Entry

/-! ### Requests -/

namespace Hub

/-- How a registered session that is answered at once comes out of what happens, as its badge shows:
it has just been used, or it is as it was. -/
inductive Explains (hub : Hub) (entry : Entry) (badge : Badge) : Prop
  | used (huses : entry.Uses hub.config badge.id) (hseen : badge.lastSeen = hub.time)
      (hserved : hub.config.transport.servesHttp = true)
  | kept (hnot : ¬ entry.Uses hub.config badge.id) (hmem : badge ∈ hub.sessions.badges)

/-- A hub becomes another at the same time, without new sessions that are answered at once. -/
structure Retains (hub hub' : Hub) : Prop where
  config : hub'.config = hub.config
  time : hub'.time = hub.time
  sessions : hub.sessions.Retains hub'.sessions

/-- A hub becomes another at the same time, and each registered session that is answered at once has
just been used or is as it was. -/
structure Attends (hub : Hub) (entry : Entry) (hub' : Hub) : Prop where
  config : hub'.config = hub.config
  time : hub'.time = hub.time
  explains : ∀ badge ∈ hub'.sessions.badges, badge.registered = true → badge.kind = .http →
    hub.Explains entry badge

variable {given : List String} {hub hub' : Hub} {entry : Entry} {arrival : Arrival}

lemma Retains.refl (hub : Hub) : hub.Retains hub :=
  ⟨rfl, rfl, Sessions.retains_of_badges rfl⟩

lemma Quiet.retains (h : hub.Quiet hub') : hub.Retains hub' :=
  ⟨h.config, h.time, Sessions.retains_of_badges h.badges⟩

lemma Retains.attends (h : hub.Retains hub')
    (hnot : ∀ badge ∈ hub.sessions.badges, badge.registered = true → badge.kind = .http →
      ¬ entry.Uses hub.config badge.id) : hub.Attends entry hub' where
  config := h.config
  time := h.time
  explains badge hbadge hreg hkind :=
    have hmem := h.sessions badge hbadge hreg hkind
    .kept (hnot badge hmem hreg hkind) hmem

section Post

variable (hhappening : entry.happening = .request arrival)
  (hasks : arrival.Asks hub.config "POST" "/http")
  (hserved : hub.config.transport.servesHttp = true)
include hhappening

/-- A message that is answered without a session, and not as a greeting that succeeds, uses none. -/
lemma attends_of_plain {reaction : Reaction} (hreaction : entry.reaction = some reaction)
    (hplain : reaction.IsPlain) (hretains : hub.Retains hub')
    (hposts : ∀ id, arrival.Posts hub.config id → ¬ hub.sessions.Resolves id .http) :
    hub.Attends entry hub' := by
  refine hretains.attends fun badge hmem hreg hkind huses => ?_
  rw [Entry.uses_iff_posts hhappening hreaction hplain] at huses
  exact hposts _ huses ⟨badge, hmem, Badge.answersTo_iff.2 ⟨hreg, rfl, hkind⟩⟩

include hserved

/-- The session in which a message is posted is noted as active now. -/
lemma attends_postInSession (hproper : hub.sessions.Proper given) {request : Request} {id : String}
    {number : SessionNumber} {session : Session} (hposts : arrival.Posts hub.config id)
    (hget : hub.sessions[number]? = some session)
    (hanswers : session.badge.answersTo id .http = true) {method : String}
    (hreaction : entry.reaction = some
      ((hub.postInSession arrival number session request).2.mapResponse (complete .rpc method))) :
    hub.Attends entry (hub.postInSession arrival number session request).1 := by
  have hplain := (isPlain_mapResponse .rpc method _).2 (isPlain_reactionTo
    (hub.server.handleRequest ⟨hub.clock, arrival.elapsed⟩ session.greeted request).answer)
  obtain ⟨hreg, hid, hkind⟩ := Badge.answersTo_iff.1 hanswers
  have huses : ∀ id', entry.Uses hub.config id' ↔ id' = id := by
    intro id'
    rw [Entry.uses_iff_posts hhappening hreaction hplain]
    exact ⟨fun hposts' => hposts'.id_unique hposts, fun h => h ▸ hposts⟩
  refine ⟨rfl, rfl, fun badge hbadge hreg' hkind' => ?_⟩
  simp only [postInSession, Sessions.modify_eq_set hget] at hbadge
  obtain ⟨session', hsession', rfl⟩ := List.mem_map.1 hbadge
  obtain ⟨number', hget'⟩ := List.mem_iff_getElem?.1 hsession'
  obtain rfl | hne := eq_or_ne number number'
  · rw [List.getElem?_set_self (List.getElem?_eq_some_iff.1 hget).1] at hget'
    cases hget'
    exact .used ((huses _).2 hid) rfl hserved
  · rw [List.getElem?_set_ne hne] at hget'
    refine .kept (fun h => hne ?_) (List.mem_map_of_mem (List.mem_of_getElem? hget'))
    exact hproper.unique hget hget' hreg hreg' (hid.trans ((huses _).1 h).symm)

include hasks

lemma attends_postWithoutSession {request : Request}
    (hrequest : Request.ofBytes? arrival.request.body = some request)
    (hheader : arrival.request.header? sessionHeader = none) {method : String}
    (hreaction : entry.reaction = some
      ((hub.postWithoutSession arrival request).2.mapResponse (complete .rpc method))) :
    hub.Attends entry (hub.postWithoutSession arrival request).1 := by
  have hposts : ∀ id, ¬ arrival.Posts hub.config id := by
    intro id hposts
    rw [hposts.names] at hheader
    cases hheader
  have hplain (answer : Answer) :
      ((reactionTo answer).mapResponse (complete .rpc method)).IsPlain :=
    (isPlain_mapResponse _ _ _).2 (isPlain_reactionTo answer)
  unfold postWithoutSession at hreaction ⊢
  by_cases hmethod : request.method = Method.greet.name
  · simp only [if_pos hmethod] at hreaction ⊢
    split_ifs at hreaction ⊢ with hsuccess
    · obtain ⟨result, hanswer⟩ := exists_result_of_isSuccess hmethod hsuccess
      generalize hub.server.handleRequest ⟨hub.clock, arrival.elapsed⟩ false request = turn
        at hanswer hreaction ⊢
      rw [hanswer] at hreaction
      have hissues : ∀ id, (complete .rpc method ((HttpResponse.json 200
          (Response.json ⟨request.id, .result result⟩)).withHeader sessionHeader
            arrival.freshId)).Issues id ↔ id = arrival.freshId := by
        intro id
        rw [issues_complete, HttpResponse.issues_withSession]
      have huses : ∀ id, entry.Uses hub.config id ↔ id = arrival.freshId := by
        intro id
        constructor
        · rintro (⟨_, _, response, _, -, -, -, -, -, hresponse, hissued, -⟩ |
            ⟨_, hrequest', hposts'⟩)
          · cases hreaction.symm.trans hresponse
            exact (hissues id).1 hissued
          · cases hhappening.symm.trans hrequest'
            exact absurd hposts' (hposts id)
        · rintro rfl
          refine .inl ⟨arrival, request, _, result, hhappening, hasks, hheader, hrequest, hmethod,
            hreaction, (hissues _).2 rfl, ?_⟩
          rw [complete_rpc]
          rfl
      refine ⟨rfl, rfl, fun badge hbadge hreg _ => ?_⟩
      obtain rfl | ⟨hid, hmem⟩ := Sessions.mem_badges_register hbadge hreg
      · exact .used ((huses _).2 rfl) rfl hserved
      · exact .kept (fun h => hid ((huses _).1 h)) hmem
    · exact attends_of_plain hhappening hreaction (hplain _) (quiet_server hub _).retains
        fun id h => absurd h (hposts id)
  · simp only [if_neg hmethod] at hreaction ⊢
    exact attends_of_plain hhappening hreaction (hplain _) (quiet_server hub _).retains
      fun id h => absurd h (hposts id)

lemma attends_post (hproper : hub.sessions.Proper given) {method : String}
    (hreaction : entry.reaction = some
      ((hub.post arrival).2.mapResponse (complete .rpc method))) :
    hub.Attends entry (hub.post arrival).1 := by
  have hrefused {response : HttpResponse} (hissues : ∀ id, ¬ response.Issues id)
      (hposts : ∀ id, arrival.Posts hub.config id → ¬ hub.sessions.Resolves id .http)
      (hpost : hub.post arrival = (hub, .response response)) :
      hub.Attends entry (hub.post arrival).1 := by
    rw [hpost] at hreaction ⊢
    exact attends_of_plain hhappening hreaction ((isPlain_mapResponse _ _ _).2 hissues)
      (.refl hub) hposts
  by_cases hlong : arrival.request.isTooLong = true
  · refine hrefused (HttpResponse.not_issues_text _ _) (fun id hposts => ?_) (if_pos hlong)
    rw [hposts.fits] at hlong
    cases hlong
  have hfits : arrival.request.isTooLong = false := Bool.eq_false_iff.2 hlong
  cases hrequest : Request.ofBytes? arrival.request.body with
  | none =>
    refine hrefused (HttpResponse.not_issues_json _ _) (fun id hposts => ?_)
      (post_of_none hfits hrequest)
    obtain ⟨request, hdecodes⟩ := hposts.decodes
    rw [hrequest] at hdecodes
    cases hdecodes
  | some request =>
    cases hheader : arrival.request.header? sessionHeader with
    | none =>
      rw [post_of_unnamed hfits hrequest hheader] at hreaction ⊢
      exact attends_postWithoutSession hhappening hasks hserved hrequest hheader hreaction
    | some id =>
      by_cases hreadable : isReadable id = true
      · have hposts : arrival.Posts hub.config id :=
          ⟨hasks, hfits, ⟨request, hrequest⟩, hheader, hreadable⟩
        cases hfind : hub.sessions.find? id .http with
        | none =>
          refine hrefused (HttpResponse.not_issues_text 404 "Session not found")
            (fun id' hposts' => ?_) ?_
          · exact hposts'.id_unique hposts ▸ Sessions.find_eq_none_iff.1 hfind
          · simp only [post, hfits, hrequest, hheader, hreadable, hfind, Bool.false_eq_true,
              if_false, Bool.not_true]
        | some number =>
          obtain ⟨session, hget, hanswers⟩ := Sessions.exists_of_find hfind
          rw [post_of_named hfits hrequest hheader hreadable hfind hget] at hreaction ⊢
          exact attends_postInSession hhappening hserved hproper hposts hget hanswers
            hreaction
      · refine hrefused (HttpResponse.not_issues_text 400 "Invalid Mcp-Session-Id header")
          (fun id' hposts => ?_) ?_
        · exact absurd (Option.some.inj (hposts.names.symm.trans hheader) ▸ hposts.readable)
            hreadable
        · simp only [post, hfits, hrequest, hheader, hreadable, Bool.false_eq_true, if_false,
            Bool.not_false, if_true]

end Post

lemma retains_openSession {surface : Surface} (hkind : surface.kind ≠ .http) (id : String)
    (greeted : Bool) : hub.Retains (hub.openSession id surface greeted) := by
  refine ⟨rfl, rfl, fun badge hbadge hreg hhttp => ?_⟩
  obtain rfl | ⟨-, hmem⟩ := Sessions.mem_badges_register hbadge hreg
  · exact absurd hhttp hkind
  · exact hmem

/-- When a stream is opened, its session is new, and no other. -/
lemma retains_openStream (hub : Hub) (freshId : String) :
    hub.Retains (hub.openStream freshId).1 :=
  have hsession : hub.Retains
      (hub.openSession freshId (.sse (.ofCapacity outboxCapacity)) false) :=
    retains_openSession (by simp [Surface.kind]) freshId false
  ⟨hsession.config, hsession.time, hsession.sessions⟩

lemma retains_delete (hub : Hub) (request : HttpRequest) : hub.Retains (hub.delete request).1 := by
  unfold delete
  split
  · exact .refl hub
  · split
    · exact .refl hub
    · exact ⟨rfl, rfl, Sessions.retains_remove _ _ _⟩

lemma retains_closeStream (hub : Hub) (number : StreamNumber) :
    hub.Retains (hub.closeStream number).1 := by
  cases hstream : hub.stream? number with
  | none =>
    rw [closeStream_of_none hstream]
    exact .refl hub
  | some entry =>
    obtain ⟨stream, session⟩ := entry
    obtain ⟨-, -, hget⟩ := exists_of_stream hstream
    have hbadges : Sessions.badges (hub.sessions.set stream.session session.stopReading.1) =
        hub.sessions.badges := Sessions.badges_set_same hget (badge_stopReading session)
    have hretains := (Sessions.retains_of_badges hbadges).trans
      (Sessions.retains_remove _ session.stopReading.1.id .sse)
    simp only [closeStream, hstream]
    exact ⟨rfl, rfl, hretains⟩

/-- A request that is no message to be answered at once leaves the sessions for these alone, but for
one that it may take out. -/
lemma retains_request
    (hother : ¬ (arrival.Asks hub.config "POST" "/http" ∧
      hub.config.transport.servesHttp = true)) : hub.Retains (hub.request arrival).1 := by
  by_cases h : ∀ (method : String) (route : Route), route.isGuarded = true →
      method ∈ route.methods → route.isServed hub.config.transport = true →
      ¬ arrival.Asks hub.config method route.path
  · rw [(request_of_not_asks h).1]
    exact .refl hub
  · push Not at h
    obtain ⟨method, route, hguarded, hmethod, hserved, hasks⟩ := h
    rw [request_of_asks hasks hmethod hserved]
    cases route with
    | health | version => cases hguarded
    | events =>
      simp only [serve]
      split
      · exact retains_openSession (by simp [Surface.kind]) _ _
      · split_ifs
        · exact .refl hub
        · exact retains_openStream hub _
    | messages => exact (postForStream_spec hub arrival _).1.retains
    | rpc =>
      simp only [serve]
      split_ifs with hdelete
      · exact retains_delete hub _
      · rw [hasks.method_eq] at hdelete
        obtain rfl : method = "POST" := by simpa [Route.methods, hdelete] using hmethod
        exact absurd ⟨hasks, hserved⟩ hother

/-- A request uses a session, or leaves those that stay registered as they were. -/
lemma attends_request (hproper : hub.sessions.Proper given)
    (hserved : ∀ badge ∈ hub.sessions.badges, badge.registered = true → badge.kind = .http →
      hub.config.transport.servesHttp = true)
    (hhappening : entry.happening = .request arrival)
    (hreaction : entry.reaction = some (hub.request arrival).2) :
    hub.Attends entry (hub.request arrival).1 := by
  by_cases h : arrival.Asks hub.config "POST" "/http" ∧ hub.config.transport.servesHttp = true
  · obtain ⟨hasks, hserved'⟩ := h
    rw [request_of_posted hserved' hasks] at hreaction ⊢
    exact attends_post hhappening hasks hserved' hproper hreaction
  · refine (retains_request h).attends fun badge hmem hreg hkind => ?_
    exact Entry.not_uses_of_not_asks hhappening fun hasks =>
      h ⟨hasks, hserved badge hmem hreg hkind⟩

end Hub

end WorldClock
