import WorldClock.Proofs.Hub.Lifecycle
import WorldClock.Proofs.Mcp.Gate
import WorldClock.Proofs.Mcp.Replies
import WorldClock.Proofs.Transports
/-!
# Registered sessions

Whatever happens to a server, a registered session is found by its own id, which was given out, and
its client has greeted the server if its messages are answered at once. A session becomes registered
when it is opened and at no other time, and nothing takes its greeting away (`Session.Ages`). So
nobody who posts a message to be answered at once is told to greet the server first
(`Run.registered_greeted`).
-/

namespace WorldClock

/-! ### Errors in responses -/

/-- Whether the body of a response is an error with a message. -/
def HttpResponse.HasError (response : HttpResponse) (message : String) : Prop :=
  ∃ value error, Json.ofText? response.body.toList = some value ∧
    value.get? "error" = some error ∧ error.get? "message" = some (.str message)

/-- A reply is read as it was meant. -/
lemma HttpResponse.hasError_json_iff {reply : Response} (h : reply.Fits) (status : Nat)
    (message : String) : (json status reply.json).HasError message ↔ reply.Refuses message := by
  have hread : Json.ofText? (json status reply.json).body.toList = some (.obj reply.members) :=
    Response.ofText_text h
  unfold HasError Response.Refuses
  rw [hread]
  obtain ⟨id, outcome⟩ := reply
  cases outcome with
  | result value =>
    have herror : (Json.obj (Response.members ⟨id, .result value⟩)).get? "error" = none := by
      cases id <;> rfl
    simp [herror]
  | error error =>
    have herror : (Json.obj (Response.members ⟨id, .error error⟩)).get? "error" =
        some (.obj error.members) := rfl
    simp [herror, error.get?_message_members]

/-- A response that is no JSON text has no error. -/
lemma HttpResponse.not_hasError {response : HttpResponse}
    (h : Json.ofText? response.body.toList = none) (message : String) :
    ¬ response.HasError message := by
  rintro ⟨value, error, hread, -⟩
  rw [h] at hread
  cases hread

lemma HttpResponse.hasError_complete_rpc (method message : String) (response : HttpResponse) :
    (Hub.complete .rpc method response).HasError message ↔ response.HasError message := by
  rw [Hub.complete_rpc]
  rfl

/-! ### Sessions that stay -/

/-- What can become of a session: it keeps its id and its kind, it is not registered again, and if
its messages are answered at once, its greeting is not forgotten. -/
structure Session.Ages (session session' : Session) : Prop where
  id_eq : session'.id = session.id
  kind_eq : session'.kind = session.kind
  registered : session'.registered = true → session.registered = true
  greeted : session.kind = .http → session.greeted = true → session'.greeted = true

lemma Session.Ages.refl (session : Session) : session.Ages session :=
  ⟨rfl, rfl, fun h => h, fun _ h => h⟩

lemma Session.Ages.trans {session session' session'' : Session} (h : session.Ages session')
    (h' : session'.Ages session'') : session.Ages session'' where
  id_eq := h'.id_eq.trans h.id_eq
  kind_eq := h'.kind_eq.trans h.kind_eq
  registered hreg := h.registered (h'.registered hreg)
  greeted hkind hgreeted := h'.greeted (h.kind_eq.trans hkind) (h.greeted hkind hgreeted)

lemma Session.ages_of_badge {session session' : Session} (hbadge : session'.badge = session.badge)
    (hgreeted : session.kind = .http → session.greeted = true → session'.greeted = true) :
    session.Ages session' :=
  ⟨congrArg Badge.id hbadge, congrArg Badge.kind hbadge,
    (congrArg Badge.registered hbadge).symm.trans, hgreeted⟩

lemma Session.ages_forget (session : Session) : session.Ages (Sessions.forget session) :=
  ⟨rfl, rfl, nofun, fun _ h => h⟩

lemma Session.ages_stopReading (session : Session) : session.Ages session.stopReading.1 := by
  refine ages_of_badge (Hub.badge_stopReading session) fun _ hgreeted => ?_
  unfold stopReading
  split <;> exact hgreeted

namespace Sessions

/-- No session is new, and the others have aged. -/
def Age (sessions sessions' : Sessions) : Prop :=
  ∀ (number : SessionNumber) (session' : Session), sessions'[number]? = some session' →
    ∃ session, sessions[number]? = some session ∧ session.Ages session'

variable {sessions sessions' : Sessions}

lemma Age.refl (sessions : Sessions) : Age sessions sessions :=
  fun _ session' h => ⟨session', h, .refl session'⟩

lemma Age.trans {sessions sessions' sessions'' : Sessions} (h : Age sessions sessions')
    (h' : Age sessions' sessions'') : Age sessions sessions'' := by
  intro number session'' hget''
  obtain ⟨session', hget', hages'⟩ := h' number session'' hget''
  obtain ⟨session, hget, hages⟩ := h number session' hget'
  exact ⟨session, hget, hages.trans hages'⟩

lemma age_map {f : Session → Session} (h : ∀ session : Session, session.Ages (f session)) :
    Age sessions (sessions.map f) := by
  intro number session' hget
  rw [List.getElem?_map, Option.map_eq_some_iff] at hget
  obtain ⟨session, hget, rfl⟩ := hget
  exact ⟨session, hget, h session⟩

lemma age_modify {number : SessionNumber} {f : Session → Session}
    (h : ∀ session, sessions[number]? = some session → session.Ages (f session)) :
    Age sessions (sessions.modify number f) := by
  intro k session' hget
  rw [List.getElem?_modify, Option.map_eq_map, Option.map_eq_some_iff] at hget
  obtain ⟨session, hget, hsession⟩ := hget
  refine ⟨session, hget, ?_⟩
  split_ifs at hsession with hk
  · exact hsession ▸ h session (hk ▸ hget)
  · exact hsession ▸ .refl session

lemma age_remove (sessions : Sessions) (id : String) (kind : SessionKind) :
    Age sessions (sessions.remove id kind) := by
  unfold remove
  split
  · exact age_modify fun session _ => session.ages_forget
  · exact .refl sessions

lemma age_evictIdle (sessions : Sessions) (kind : SessionKind) (limit now : Duration) :
    Age sessions (sessions.evictIdle kind limit now) := by
  rw [evictIdle_eq_map]
  refine age_map fun session => ?_
  split_ifs
  · exact session.ages_forget
  · exact .refl session

lemma age_clear (sessions : Sessions) : Age sessions sessions.clear :=
  age_map Session.ages_forget

/-- Sessions age if the registry sees no change and those that are answered at once are spared. -/
lemma age_of_badges (hbadges : sessions'.badges = sessions.badges)
    (hspares : Spares .http sessions sessions') : Age sessions sessions' := by
  intro number session' hget'
  have hbadge : sessions.badges[number]? = some session'.badge := by
    rw [← hbadges, badges, List.getElem?_map, hget', Option.map_some]
  rw [badges, List.getElem?_map, Option.map_eq_some_iff] at hbadge
  obtain ⟨session, hget, hsame⟩ := hbadge
  refine ⟨session, hget, Session.ages_of_badge hsame.symm fun hkind hgreeted => ?_⟩
  have hspared := (hspares number session hget hkind).symm.trans hget'
  rw [Option.some.injEq] at hspared
  exact hspared ▸ hgreeted

end Sessions

lemma Hub.Quiet.age {hub hub' : Hub} (h : hub.Quiet hub') : hub.sessions.Age hub'.sessions :=
  Sessions.age_of_badges h.badges h.spares

lemma Hub.age_closeStream (hub : Hub) (number : StreamNumber) :
    hub.sessions.Age (hub.closeStream number).1.sessions := by
  cases hstream : hub.stream? number with
  | none =>
    rw [closeStream_of_none hstream]
    exact .refl _
  | some entry =>
    obtain ⟨stream, session⟩ := entry
    obtain ⟨-, -, hget⟩ := exists_of_stream hstream
    simp only [closeStream, hstream]
    refine .trans ?_ (Sessions.age_remove _ _ _)
    rw [← Sessions.modify_eq_set hget fun session => session.stopReading.1]
    exact Sessions.age_modify fun session _ => session.ages_stopReading

/-! ### What is known of registered sessions -/

/-- A session under an id that was given out, as the registry may have it. -/
structure Session.IsProper (given : List String) (session : Session) : Prop where
  id_given : session.id ∈ given
  kind_ne : session.kind ≠ .stdio
  greeted : session.kind = .http → session.greeted = true

lemma Session.IsProper.ages {given : List String} {session session' : Session}
    (h : session.IsProper given) (hages : session.Ages session') : session'.IsProper given where
  id_given := hages.id_eq.symm ▸ h.id_given
  kind_ne := hages.kind_eq.symm ▸ h.kind_ne
  greeted hkind :=
    have hkind' := hages.kind_eq.symm.trans hkind
    hages.greeted hkind' (h.greeted hkind')

namespace Sessions

/-- The registered sessions are as they may be, and no two of them have the same id. -/
structure Proper (given : List String) (sessions : Sessions) : Prop where
  isProper : ∀ {number : SessionNumber} {session : Session}, sessions[number]? = some session →
    session.registered = true → session.IsProper given
  unique : ∀ {number number' : SessionNumber} {session session' : Session},
    sessions[number]? = some session → sessions[number']? = some session' →
      session.registered = true → session'.registered = true → session.id = session'.id →
      number = number'

namespace Proper

variable {given : List String} {sessions sessions' : Sessions}

lemma nil : Proper given [] :=
  ⟨fun hget => by simp at hget, fun hget => by simp at hget⟩

lemma mono {more : List String} (h : sessions.Proper given) : sessions.Proper (given ++ more) where
  isProper hget hreg :=
    have hproper := h.isProper hget hreg
    ⟨List.mem_append_left _ hproper.id_given, hproper.kind_ne, hproper.greeted⟩
  unique := h.unique

lemma age (h : sessions.Proper given) (hage : sessions.Age sessions') : sessions'.Proper given where
  isProper hget' hreg' := by
    obtain ⟨session, hget, hages⟩ := hage _ _ hget'
    exact (h.isProper hget (hages.registered hreg')).ages hages
  unique hget₁' hget₂' hreg₁ hreg₂ hid := by
    obtain ⟨session₁, hget₁, hages₁⟩ := hage _ _ hget₁'
    obtain ⟨session₂, hget₂, hages₂⟩ := hage _ _ hget₂'
    exact h.unique hget₁ hget₂ (hages₁.registered hreg₁) (hages₂.registered hreg₂)
      (hages₁.id_eq.symm.trans (hid.trans hages₂.id_eq))

/-- A session whose id no registered session has comes to the others. -/
lemma concat (h : sessions.Proper given) {session : Session} (hproper : session.IsProper given)
    (hother : ∀ other ∈ sessions, other.registered = true → other.id ≠ session.id) :
    Proper given (sessions ++ [session]) := by
  have hcases {number : SessionNumber} {found : Session}
      (hget : (sessions ++ [session])[number]? = some found) :
      sessions[number]? = some found ∨ number = sessions.length ∧ found = session := by
    rw [List.getElem?_append] at hget
    split_ifs at hget with hlt
    · exact .inl hget
    · rw [List.getElem?_singleton] at hget
      split_ifs at hget with hzero
      exact .inr ⟨le_antisymm (Nat.sub_eq_zero_iff_le.1 hzero) (not_lt.1 hlt),
        (Option.some.inj hget).symm⟩
  refine ⟨fun hget hreg => ?_, fun hget hget' hreg hreg' hid => ?_⟩
  · obtain hget | ⟨-, rfl⟩ := hcases hget
    · exact h.isProper hget hreg
    · exact hproper
  · obtain hold | ⟨rfl, rfl⟩ := hcases hget <;> obtain hold' | ⟨rfl, rfl⟩ := hcases hget'
    · exact h.unique hold hold' hreg hreg' hid
    · exact absurd hid (hother _ (List.mem_of_getElem? hold) hreg)
    · exact absurd hid.symm (hother _ (List.mem_of_getElem? hold') hreg')
    · rfl

/-- A session that becomes registered takes the place of one with its id. -/
lemma register (h : sessions.Proper given) {session : Session} (hproper : session.IsProper given) :
    Proper given (Sessions.register (sessions ++ [session]) sessions.length) := by
  rw [register_concat]
  refine (h.age (age_map fun other => ?_)).concat
    ⟨hproper.id_given, hproper.kind_ne, hproper.greeted⟩ fun other hother hreg => ?_
  · split_ifs
    · exact other.ages_forget
    · exact .refl other
  · obtain ⟨old, -, rfl⟩ := List.mem_map.1 hother
    split_ifs at hreg ⊢ with hid
    · cases hreg
    · exact fun heq => hid (beq_iff_eq.2 heq)

/-- A registered session is found by its id. -/
lemma find_eq (h : sessions.Proper given) {number : SessionNumber} {session : Session}
    (hget : sessions[number]? = some session) (hreg : session.registered = true) :
    sessions.find? session.id session.kind = some number := by
  cases hfind : sessions.find? session.id session.kind with
  | none =>
    exact absurd ⟨session.badge, List.mem_map_of_mem (List.mem_of_getElem? hget),
      Badge.answersTo_iff.2 ⟨hreg, rfl, rfl⟩⟩ (find_eq_none_iff.1 hfind)
  | some found =>
    obtain ⟨session', hget', hanswers⟩ := exists_of_find hfind
    obtain ⟨hreg', hid, -⟩ := Badge.answersTo_iff.1 hanswers
    exact congrArg some (h.unique hget' hget hreg' hreg hid)

end Proper

end Sessions

/-! ### Requests -/

/-- A reaction is a response exactly if it was one before the response was changed. -/
lemma Reaction.mapResponse_eq_response_iff {change : HttpResponse → HttpResponse}
    {reaction : Reaction} {response : HttpResponse} :
    reaction.mapResponse change = .response response ↔
      ∃ before, reaction = .response before ∧ change before = response := by
  cases reaction <;> simp [mapResponse]

namespace Hub

variable {given : List String} {hub : Hub} {arrival : Arrival}

/-- Registered sessions are as they may be, and the response, if there is one, does not tell the
client to greet the server first. -/
structure IsPast (given : List String) (outcome : Hub × Reaction) : Prop where
  proper : outcome.1.sessions.Proper given
  not_hasError : ∀ {response : HttpResponse}, outcome.2 = .response response →
    ¬ response.HasError ungreetedMessage

lemma proper_openSession (h : hub.sessions.Proper given) {id : String} (hid : id ∈ given)
    {surface : Surface} {greeted : Bool} (hkind : surface.kind ≠ .stdio)
    (hgreeted : surface.kind = .http → greeted = true) :
    (hub.openSession id surface greeted).sessions.Proper given :=
  h.register ⟨hid, hkind, hgreeted⟩

lemma not_hasError_reactionTo {answer : Answer} {message : String}
    (hfits : ∀ reply, answer = .reply reply → reply.Fits) (hanswer : ¬ answer.Refuses message)
    {response : HttpResponse} (hresponse : reactionTo answer = .response response) :
    ¬ response.HasError message := by
  cases answer with
  | silence =>
    cases hresponse
    exact HttpResponse.not_hasError (by decide) message
  | reply reply =>
    cases hresponse
    rw [HttpResponse.hasError_json_iff (hfits reply rfl)]
    simpa using hanswer
  | stopped cause => cases hresponse

section Post

variable {request : Request} (hrequest : Request.ofBytes? arrival.request.body = some request)
include hrequest

/-- A client that has greeted the server or greets it now is not told to do so. -/
lemma not_hasError_handleRequest {greeted : Bool} {moment : Moment} {server : Server}
    (hpast : greeted = true ∨ request.method = Method.greet.name) {response : HttpResponse}
    (hresponse : reactionTo (server.handleRequest moment greeted request).answer =
      .response response) : ¬ response.HasError ungreetedMessage := by
  have hhandle : server.handle moment greeted arrival.request.body =
      server.handleRequest moment greeted request := by
    simp only [Server.handle, hrequest]
  refine not_hasError_reactionTo (fun reply hreply => ?_)
    ((Server.Course.of_handleRequest server moment greeted request).not_refuses hpast) hresponse
  exact Server.reply_fits (hhandle.symm ▸ hreply)

lemma isPast_postWithoutSession (h : hub.sessions.Proper given) (hid : arrival.freshId ∈ given) :
    IsPast given (hub.postWithoutSession arrival request) := by
  unfold postWithoutSession
  by_cases hmethod : request.method = Method.greet.name
  · rw [if_pos hmethod]
    have hcourse := Server.Course.of_handleRequest hub.server ⟨hub.clock, arrival.elapsed⟩ false
      request
    have hnot {response : HttpResponse} := @not_hasError_handleRequest _ _ hrequest false
      ⟨hub.clock, arrival.elapsed⟩ hub.server (.inr hmethod) response
    generalize hub.server.handleRequest ⟨hub.clock, arrival.elapsed⟩ false request = turn
      at hcourse hnot
    dsimp only
    split_ifs with hsuccess
    · have hgreeted : turn.greeted = true := by
        unfold isSuccess at hsuccess
        split at hsuccess
        · next reply hreply => exact hcourse.greeted_of_success hmethod hreply hsuccess
        · cases hsuccess
        · cases hsuccess
      refine ⟨proper_openSession h hid (by decide) fun _ => hgreeted, fun hresponse => ?_⟩
      obtain ⟨before, hbefore, rfl⟩ := Reaction.mapResponse_eq_response_iff.1 hresponse
      exact (hnot hbefore : ¬ before.HasError _)
    · exact ⟨h, hnot⟩
  · rw [if_neg hmethod]
    exact ⟨h, not_hasError_handleRequest hrequest (.inl rfl)⟩

lemma isPast_postInSession (h : hub.sessions.Proper given) {session : Session}
    (hgreeted : session.greeted = true) (number : SessionNumber) :
    IsPast given (hub.postInSession arrival number session request) := by
  have hcourse := Server.Course.of_handleRequest hub.server ⟨hub.clock, arrival.elapsed⟩
    session.greeted request
  rw [hgreeted] at hcourse
  refine ⟨h.age (Sessions.age_modify fun found _ => ⟨rfl, rfl, fun hreg => hreg, fun _ _ => ?_⟩),
    not_hasError_handleRequest hrequest (.inl hgreeted)⟩
  rw [hgreeted]
  exact hcourse.greeted_of_greeted

end Post

lemma isPast_post (h : hub.sessions.Proper given) (hid : arrival.freshId ∈ given) :
    IsPast given (hub.post arrival) := by
  have hrefused {response : HttpResponse} (hbody : Json.ofText? response.body.toList = none) :
      IsPast given (hub, .response response) :=
    ⟨h, by rintro _ ⟨⟩; exact HttpResponse.not_hasError hbody _⟩
  unfold post
  split_ifs
  · exact hrefused (by decide)
  cases hrequest : Request.ofBytes? arrival.request.body with
  | none =>
    have hhandle := Server.handle_of_none hub.server ⟨hub.clock, 0⟩ false hrequest
    refine ⟨h, ?_⟩
    rintro _ ⟨⟩
    rw [HttpResponse.hasError_json_iff (Server.reply_fits (congrArg Turn.answer hhandle))]
    simp [RpcError.parseError, ungreetedMessage]
  | some request =>
    dsimp only
    cases arrival.request.header? sessionHeader with
    | none => exact isPast_postWithoutSession hrequest h hid
    | some id =>
      dsimp only
      split_ifs
      · exact hrefused (by decide)
      cases hfind : hub.sessions.find? id .http with
      | none => exact hrefused (by decide)
      | some number =>
        obtain ⟨session, hget, hanswers⟩ := Sessions.exists_of_find hfind
        obtain ⟨hreg, -, hkind⟩ := Badge.answersTo_iff.1 hanswers
        simp only [hget]
        exact isPast_postInSession hrequest h ((h.isProper hget hreg).greeted hkind) number

/-- Whatever a request is, the registered sessions are as they may be after it. -/
lemma proper_request (h : hub.sessions.Proper given) (hid : arrival.freshId ∈ given) :
    (hub.request arrival).1.sessions.Proper given := by
  unfold request
  dsimp only
  split_ifs
  · exact h
  split
  · exact h
  next route _ =>
  unfold Hub.route
  dsimp only
  split_ifs
  · exact h
  · exact h
  cases route with
  | health | version => exact h
  | events =>
    simp only [serve]
    split
    · exact proper_openSession h hid (by decide) fun hkind => by cases hkind
    · split_ifs
      · exact h
      · exact proper_openSession h hid (by decide) fun hkind => by cases hkind
  | messages => exact h.age (postForStream_spec hub arrival _).1.age
  | rpc =>
    simp only [serve]
    split_ifs
    · unfold delete
      split
      · exact h
      · split
        · exact h
        · exact h.age (Sessions.age_remove _ _ _)
    · exact (isPast_post h hid).proper

/-- Nobody who posts a message to be answered at once is told to greet the server first. -/
lemma not_hasError_request (h : hub.sessions.Proper given)
    (hmethod : arrival.request.method = "POST") (hpath : arrival.path = "/http")
    {response : HttpResponse}
    (hresponse : (hub.request arrival).2 = .response response) :
    ¬ response.HasError ungreetedMessage := by
  have hpast : IsPast (given ++ [arrival.freshId]) (hub.post arrival) :=
    isPast_post h.mono (List.mem_append_right _ (List.mem_singleton_self _))
  have hrefused {refused answer : HttpResponse} (hbody : Json.ofText? refused.body.toList = none)
      (heq : Reaction.response refused = .response answer) :
      ¬ answer.HasError ungreetedMessage := by
    cases heq
    exact HttpResponse.not_hasError hbody _
  have hoptions : arrival.request.method ≠ "OPTIONS" := by
    rw [hmethod]
    decide
  simp only [request, if_neg hoptions] at hresponse
  cases hfound : Route.ofPath? hub.config.transport arrival.path with
  | none =>
    rw [hfound] at hresponse
    exact hrefused (by decide) hresponse
  | some route =>
    obtain ⟨-, hroute⟩ := Route.ofPath_eq_some_iff.1 hfound
    obtain rfl : route = .rpc := path_injective (hroute.symm.trans hpath)
    rw [hfound] at hresponse
    obtain ⟨before, hbefore, rfl⟩ := Reaction.mapResponse_eq_response_iff.1 hresponse
    rw [HttpResponse.hasError_complete_rpc]
    have hcontains : Route.rpc.methods.contains "POST" = true := by decide
    have hdelete : ("POST" : String) ≠ "DELETE" := by decide
    simp only [Hub.route, hmethod, hcontains, Bool.not_true, Bool.false_eq_true, if_false, serve,
      hdelete] at hbefore
    split_ifs at hbefore
    · exact hrefused (by decide) hbefore
    · exact hpast.not_hasError hbefore

end Hub

/-! ### Runs -/

namespace Run

lemma proper_step {run : Run} {given : List String} (h : run.hub.sessions.Proper given)
    (happening : Happening) :
    (run.step happening).hub.sessions.Proper (given ++ happening.freshId?.toList) := by
  rw [step_eq]
  cases happening with
  | request arrival =>
    exact Hub.proper_request h.mono (List.mem_append_right _ (List.mem_singleton_self _))
  | look number => exact h.mono.age (Hub.quiet_look run.hub number).age
  | close number => exact h.mono.age (Hub.age_closeStream run.hub number)
  | abandon ticket => exact h.mono.age (Hub.quiet_abandon run.hub ticket).age
  | sweep => exact h.mono.age (Sessions.age_evictIdle _ _ _ _)
  | clear => exact h.mono.age (Sessions.age_clear _)
  | wait | setClock => exact h.mono

lemma proper_after (config : Config) (clock : Instant) (zones : ZoneTable)
    (happenings : List Happening) :
    ((start config clock zones).after happenings).hub.sessions.Proper (freshIds happenings) := by
  induction happenings using List.reverseRecOn with
  | nil => exact .nil
  | append_singleton happenings happening ih =>
    rw [after_concat, freshIds_concat]
    exact proper_step ih happening

/-- Whatever has happened, each registered session is found by its own id, which no other registered
session has. The id was given out, so it is not empty unless an empty one was. No session of lines
is registered, and the sessions that are answered at once are those of clients that have greeted the
server. So a message that is posted to be answered at once is never answered with the error that
the client has not. -/
theorem registered_greeted (config : Config) (clock : Instant) (zones : ZoneTable)
    (happenings : List Happening) :
    let hub := ((start config clock zones).after happenings).hub
    (∀ (number : SessionNumber) (session : Session), hub.sessions[number]? = some session →
      session.registered = true →
        hub.sessions.find? session.id session.kind = some number ∧
        (∀ (number' : SessionNumber) (session' : Session), hub.sessions[number']? = some session' →
          session'.registered = true → session'.id = session.id → number' = number) ∧
        session.id ∈ freshIds happenings ∧ ("" ∉ freshIds happenings → session.id ≠ "") ∧
        session.kind ≠ .stdio ∧ (session.kind = .http → session.greeted = true)) ∧
    ∀ (arrival : Arrival) (response : HttpResponse), arrival.request.method = "POST" →
      arrival.path = "/http" → (hub.request arrival).2 = .response response →
        ¬ response.HasError "Server not initialized" := by
  intro hub
  have hproper : hub.sessions.Proper (freshIds happenings) :=
    proper_after config clock zones happenings
  refine ⟨fun number session hget hreg => ?_, fun _ _ hmethod hpath =>
    Hub.not_hasError_request hproper hmethod hpath⟩
  have hsession := hproper.isProper hget hreg
  refine ⟨hproper.find_eq hget hreg, fun number' session' hget' hreg' hid => ?_,
    hsession.id_given, fun hempty hid => hempty (hid ▸ hsession.id_given), hsession.kind_ne,
    hsession.greeted⟩
  exact hproper.unique hget' hget hreg' hreg hid

/-- A client that greets the server before all else gets a response, and a session is registered for
it. -/
lemma exists_registered_of_greeting (clock : Instant) {config : Config} {arrival : Arrival}
    (hserved : config.transport.servesHttp = true) (hsends : arrival.Sends config none)
    (hgreeting : IsGreeting arrival.request.body) (httl : 0 < config.sessionTtl) :
    (∃ response, (((start config clock).after []).hub.request arrival).2 = .response response) ∧
    ∃ (number : SessionNumber) (session : Session),
      ((start config clock).after [.request arrival]).hub.sessions[number]? = some session ∧
        session.registered = true ∧ session.id = arrival.freshId ∧ session.kind = .http := by
  have hfresh : arrival.freshId ∉ (Hub.start config clock).sessions.ids := List.not_mem_nil
  obtain ⟨-, -, ⟨response, hresponse, -⟩, hhosts⟩ :=
    Hub.request_greeting hserved hsends hfresh hgreeting httl
  obtain @⟨number, session, hfound, hget, -, -, -⟩ := hhosts
  obtain ⟨found, hget', hanswers⟩ := Sessions.exists_of_find hfound
  obtain rfl : session = found := Option.some.inj (hget.symm.trans hget')
  exact ⟨⟨response, hresponse⟩, number, session, hget, Badge.answersTo_iff.1 hanswers⟩

/-- A client greets the server, is not told to do so, and its session is registered. -/
theorem registered_greeted_visit :
    (∃ response, (((start (configWith .http) epoch).after []).hub.request
        visitPoster.greeting).2 = .response response ∧
      ¬ response.HasError "Server not initialized") ∧
    ∃ (number : SessionNumber) (session : Session),
      ((start (configWith .http) epoch).after
        [.request visitPoster.greeting]).hub.sessions[number]? = some session ∧
      session.registered = true ∧ session.kind = .http ∧ session.greeted = true := by
  obtain ⟨⟨response, hresponse⟩, number, session, hget, hreg, -, hkind⟩ :=
    exists_registered_of_greeting epoch rfl visitPoster.greets visitPoster.isGreeting
      visitPoster.pauses_lt
  have hnot := (registered_greeted (configWith .http) epoch Zone.find? []).2 visitPoster.greeting
    response visitPoster.greets.asks.method_eq visitPoster.greets.asks.path_eq hresponse
  have hsession := (registered_greeted (configWith .http) epoch Zone.find?
    [.request visitPoster.greeting]).1 number session hget hreg
  exact ⟨⟨response, hresponse, hnot⟩, number, session, hget, hreg, hkind,
    hsession.2.2.2.2.2 hkind⟩

end Run

end WorldClock
