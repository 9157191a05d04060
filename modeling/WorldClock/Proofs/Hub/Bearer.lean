import WorldClock.Proofs.Hub.Refusals
/-!
# The token at the gate

A request for a route of messages passes if it shows the token, and then it is answered as by a hub
that asks for no token. Any other request gets an answer that depends on nothing but the route and
the method, and the hub stays as it was (`Hub.request_gate`).
-/

namespace WorldClock

/-! ### Tokens that requests show -/

/-- A request shows a token: the first value of its header for it can be read and is, apart from
blanks around it, the word `bearer` in any case, a space, and the token with blanks around it. -/
def HttpRequest.Presents (request : HttpRequest) (token : String) : Prop :=
  ∃ value, request.header? "authorization" = some value ∧ isReadable value = true ∧
    ∃ word rest, Text.trimmed value.toList = word ++ ' ' :: rest ∧
      word.map Char.toLower = "bearer".toList ∧ Text.trimmed rest = token.toList

/-- A word that is `bearer` but for upper and lower case has no space in it. -/
lemma not_mem_of_bearer {word : List Char} (h : word.map Char.toLower = "bearer".toList) :
    ' ' ∉ word := by
  intro hmem
  have hspace : ' ' ∈ "bearer".toList := h ▸ List.mem_map_of_mem hmem
  exact absurd hspace (by decide)

lemma bearerToken?_eq_some_iff {value token : String} :
    bearerToken? value = some token ↔
      ∃ word rest, Text.trimmed value.toList = word ++ ' ' :: rest ∧
        word.map Char.toLower = "bearer".toList ∧ Text.trimmed rest = token.toList := by
  rw [bearerToken?]
  generalize Text.trimmed value.toList = cs
  constructor
  · intro h
    split at h
    · cases h
    · next c rest hrest =>
      obtain ⟨hword, htoken⟩ := Option.ite_none_right_eq_some.1 h
      have hc : c = ' ' := by
        have hhead := List.head?_dropWhile_not (· != ' ') cs
        rw [hrest] at hhead
        simpa using hhead
      refine ⟨cs.takeWhile (· != ' '), rest, ?_, ?_, ?_⟩
      · have happend := List.takeWhile_append_dropWhile (p := (· != ' ')) (l := cs)
        rw [hrest, hc] at happend
        exact happend.symm
      · have hlower : "bearer".toList.map Char.toLower = "bearer".toList := by decide
        rw [Text.sameLetters, String.toList_ofList, beq_iff_eq, hlower] at hword
        exact hword
      · rw [← Option.some.inj htoken, Text.toList_trim, String.toList_ofList]
  · rintro ⟨word, rest, rfl, hword, htoken⟩
    have hspace : ∀ c ∈ word, (c != ' ') = true := fun c hc =>
      bne_iff_ne.2 fun heq => not_mem_of_bearer hword (heq ▸ hc)
    have htake : (word ++ ' ' :: rest).takeWhile (· != ' ') = word := by
      rw [List.takeWhile_append_of_pos hspace]
      simp
    have hdrop : (word ++ ' ' :: rest).dropWhile (· != ' ') = ' ' :: rest := by
      rw [List.dropWhile_append_of_pos hspace]
      simp
    have hsame : Text.sameLetters (String.ofList word) "bearer" = true := by
      rw [Text.sameLetters, String.toList_ofList, hword, beq_iff_eq]
      decide
    simp only [hdrop, htake, hsame, if_true, Option.some.injEq]
    rw [← String.toList_inj, Text.toList_trim, String.toList_ofList, htoken]

lemma HttpRequest.isAuthorized_iff {request : HttpRequest} {token : String} :
    request.isAuthorized (some token) = true ↔ request.Presents token := by
  simp only [isAuthorized, token?, beq_iff_eq, Option.bind_eq_bind, Option.bind_eq_some_iff,
    Option.guard_eq_some', bearerToken?_eq_some_iff, Presents]
  constructor
  · rintro ⟨value, hvalue, -, hreadable, htoken⟩
    exact ⟨value, hvalue, hreadable, htoken⟩
  · rintro ⟨value, hvalue, hreadable, htoken⟩
    exact ⟨value, hvalue, (), hreadable, htoken⟩

/-! ### Another token -/

namespace Hub

variable {hub : Hub} {arrival : Arrival} {token : Option String}

/-- A hub that asks for another token, or for none. -/
def withToken (hub : Hub) (token : Option String) : Hub :=
  { hub with config := { hub.config with authToken := token } }

@[simp] lemma server_withToken : (hub.withToken token).server = hub.server := rfl

@[simp] lemma clock_withToken : (hub.withToken token).clock = hub.clock := rfl

@[simp] lemma sessions_withToken : (hub.withToken token).sessions = hub.sessions := rfl

/-- What becomes of a hub that asks for another token, and of a request to it. -/
def outcomeWith {α : Type} (token : Option String) (outcome : Hub × α) : Hub × α :=
  (outcome.1.withToken token, outcome.2)

@[simp] lemma snd_outcomeWith {α : Type} (token : Option String) (outcome : Hub × α) :
    (outcomeWith token outcome).2 = outcome.2 := rfl

lemma withToken_hear (elapsed : Duration) (number : SessionNumber) (session : Session)
    (message : Bytes) :
    (hub.withToken token).hear elapsed number session message =
      outcomeWith token (hub.hear elapsed number session message) := rfl

lemma withToken_deliver (number : SessionNumber) (session : Session) (reply : Response) :
    (hub.withToken token).deliver number session reply =
      outcomeWith token (hub.deliver number session reply) := by
  unfold deliver
  split <;> rfl

lemma withToken_hearForStream (elapsed : Duration) (number : SessionNumber) (session : Session)
    (message : Bytes) :
    (hub.withToken token).hearForStream elapsed number session message =
      outcomeWith token (hub.hearForStream elapsed number session message) := by
  unfold hearForStream
  rw [withToken_hear]
  obtain ⟨hub', answer⟩ := hub.hear elapsed number session message
  cases answer with
  | silence => rfl
  | stopped cause => rfl
  | reply reply =>
    simp only [outcomeWith, sessions_withToken]
    split
    · exact withToken_deliver number _ reply
    · rfl

lemma withToken_postForStream (query : Bytes) :
    (hub.withToken token).postForStream arrival query =
      outcomeWith token (hub.postForStream arrival query) := by
  have hsession : ∀ id, (hub.withToken token).streamSession? id = hub.streamSession? id :=
    fun _ => rfl
  unfold postForStream
  split
  · rfl
  · split_ifs <;> rfl
  · split_ifs
    · rfl
    · rw [hsession]
      split
      · rfl
      · exact withToken_hearForStream _ _ _ _

lemma withToken_postWithoutSession (request : Request) :
    (hub.withToken token).postWithoutSession arrival request =
      outcomeWith token (hub.postWithoutSession arrival request) := by
  dsimp only [postWithoutSession, server_withToken, clock_withToken]
  split_ifs <;> rfl

lemma withToken_post :
    (hub.withToken token).post arrival = outcomeWith token (hub.post arrival) := by
  simp only [post, sessions_withToken]
  split_ifs
  · rfl
  · split
    · rfl
    · split
      · exact withToken_postWithoutSession _
      · split_ifs
        · rfl
        · split
          · rfl
          · split <;> rfl

lemma withToken_delete (request : HttpRequest) :
    (hub.withToken token).delete request = outcomeWith token (hub.delete request) := by
  simp only [delete, sessions_withToken]
  split
  · rfl
  · split <;> rfl

/-- Whatever the token is, the parts behind the gate answer in the same way. -/
lemma withToken_serve (query : Bytes) (route : Route) :
    (hub.withToken token).serve arrival query route =
      outcomeWith token (hub.serve arrival query route) := by
  cases route with
  | health | version => rfl
  | events =>
    have hfault : (hub.withToken token).announcementFault? arrival.freshId =
        hub.announcementFault? arrival.freshId := rfl
    simp only [serve, hfault]
    split
    · rfl
    · split_ifs <;> rfl
  | messages => exact withToken_postForStream query
  | rpc =>
    simp only [serve, withToken_delete, withToken_post]
    split_ifs <;> rfl

lemma withToken_route {route : Route} (h : route.isGuarded = true →
      arrival.request.isAuthorized token = arrival.request.isAuthorized hub.config.authToken)
    (query : Bytes) :
    (hub.withToken token).route arrival query route =
      outcomeWith token (hub.route arrival query route) := by
  have htoken : (hub.withToken token).config.authToken = token := rfl
  have hpasses : (route.isGuarded && !arrival.request.isAuthorized token) =
      (route.isGuarded && !arrival.request.isAuthorized hub.config.authToken) := by
    cases hguarded : route.isGuarded with
    | false => rfl
    | true => rw [h hguarded]
  simp only [Hub.route, htoken, hpasses, withToken_serve]
  split_ifs <;> rfl

/-- Another token makes no difference to a request that passes with both tokens or with neither, or
that needs none. -/
lemma withToken_request (h : ∀ route : Route, arrival.path = route.path → route.isGuarded = true →
      arrival.request.isAuthorized token = arrival.request.isAuthorized hub.config.authToken) :
    (hub.withToken token).request arrival = outcomeWith token (hub.request arrival) := by
  have htransport : (hub.withToken token).config.transport = hub.config.transport := rfl
  simp only [request, htransport]
  split_ifs
  · rfl
  · split
    · rfl
    · next route hfound =>
      rw [withToken_route (h route (Route.ofPath_eq_some_iff.1 hfound).2)]
      rfl

end Hub

/-! ### The gate -/

/-- The answer to requests that may not pass. -/
def Route.refusal (route : Route) (method : String) : HttpResponse :=
  Hub.complete route method (route.listMethods method unauthorized)

@[simp] lemma Route.status_refusal (route : Route) (method : String) :
    (route.refusal method).status = 401 := by
  rw [refusal, status_complete, Hub.status_listMethods]
  rfl

/-- A request is for a path of messages that the transport has. Questions of pages from elsewhere do
not count. -/
structure Arrival.Approaches (hub : Hub) (arrival : Arrival) : Prop where
  method_ne : arrival.request.method ≠ "OPTIONS"
  mounted : (arrival.path = "/sse" ∨ arrival.path = "/messages") ∧
      hub.config.transport.servesStreams = true ∨
    arrival.path = "/http" ∧ hub.config.transport.servesHttp = true

lemma Arrival.Approaches.exists_route {hub : Hub} {arrival : Arrival}
    (h : arrival.Approaches hub) :
    ∃ route, Route.ofPath? hub.config.transport arrival.path = some route ∧
      route.isGuarded = true := by
  rcases h.mounted with ⟨hpath | hpath, hserved⟩ | ⟨hpath, hserved⟩
  · exact ⟨.events, Route.ofPath_eq_some_iff.2 ⟨hserved, hpath⟩, rfl⟩
  · exact ⟨.messages, Route.ofPath_eq_some_iff.2 ⟨hserved, hpath⟩, rfl⟩
  · exact ⟨.rpc, Route.ofPath_eq_some_iff.2 ⟨hserved, hpath⟩, rfl⟩

namespace Hub

variable {hub : Hub} {arrival : Arrival} {route : Route}

/-- A request passes the gate: the hub answers it as if no token were asked for. -/
def Admits (hub : Hub) (arrival : Arrival) : Prop :=
  hub.request arrival =
    outcomeWith hub.config.authToken ((hub.withToken none).request arrival)

/-- What shows the token passes, and so does what needs none. -/
lemma admits_of_authorized (h : ∀ route : Route, arrival.path = route.path →
      route.isGuarded = true → arrival.request.isAuthorized hub.config.authToken = true) :
    hub.Admits arrival :=
  @withToken_request (hub.withToken none) arrival hub.config.authToken h

lemma request_of_found (hmethod : arrival.request.method ≠ "OPTIONS")
    (hfound : Route.ofPath? hub.config.transport arrival.path = some route) :
    hub.request arrival =
      ((hub.route arrival (Target.ofText arrival.request.target).query route).1,
        (hub.route arrival (Target.ofText arrival.request.target).query route).2.mapResponse
          (complete route arrival.request.method)) := by
  simp only [request, hmethod, if_false, hfound]

lemma request_of_not_authorized (hmethod : arrival.request.method ≠ "OPTIONS")
    (hfound : Route.ofPath? hub.config.transport arrival.path = some route)
    (hguarded : route.isGuarded = true)
    (hauthorized : ¬ arrival.request.isAuthorized hub.config.authToken = true) :
    hub.request arrival = (hub, .response (route.refusal arrival.request.method)) := by
  rw [request_of_found hmethod hfound]
  simp only [Hub.route, hguarded, hauthorized, Bool.not_false, Bool.and_self, if_true]
  rfl

/-- Behind the gate nothing is refused for want of a token. -/
lemma status?_serve_ne (hub : Hub) (arrival : Arrival) (query : Bytes) (route : Route) :
    (hub.serve arrival query route).2.status? ≠ some 401 := fun hstatus => by
  simpa using (concludes_serve hub arrival query route).status_mem hstatus

lemma status?_request_ne (hmethod : arrival.request.method ≠ "OPTIONS")
    (hfound : Route.ofPath? hub.config.transport arrival.path = some route)
    (hauthorized : arrival.request.isAuthorized hub.config.authToken = true) :
    (hub.request arrival).2.status? ≠ some 401 := by
  rw [request_of_found hmethod hfound, Reaction.status?_mapResponse (status_complete route _)]
  simp only [Hub.route, hauthorized, Bool.not_true, Bool.and_false, Bool.false_eq_true, if_false]
  split_ifs
  · simp [HttpResponse.bare]
  · exact status?_serve_ne hub arrival _ route

lemma admits_iff (h : arrival.Approaches hub) :
    hub.Admits arrival ↔ arrival.request.isAuthorized hub.config.authToken = true := by
  obtain ⟨route, hfound, hguarded⟩ := h.exists_route
  constructor
  · intro hadmits
    by_contra hauthorized
    have hsame : (hub.request arrival).2 = ((hub.withToken none).request arrival).2 := by
      rw [Admits] at hadmits
      rw [hadmits, snd_outcomeWith]
    have hopen : ((hub.withToken none).request arrival).2.status? ≠ some 401 :=
      status?_request_ne h.method_ne hfound rfl
    apply hopen
    rw [← hsame, request_of_not_authorized h.method_ne hfound hguarded hauthorized]
    simp
  · intro hauthorized
    exact admits_of_authorized fun _ _ _ => hauthorized

end Hub

/-! ### Headers -/

/-- The headers of a request other than those that show a token. -/
def otherHeaders (headers : List (String × String)) : List (String × String) :=
  headers.filter fun header => header.1.toLower != "authorization"

/-- A request with other headers. -/
def Arrival.withHeaders (arrival : Arrival) (headers : List (String × String)) : Arrival :=
  { arrival with request := { arrival.request with headers } }

lemma HttpRequest.header?_eq_otherHeaders {name : String} (hname : name ≠ "authorization")
    (request : HttpRequest) :
    request.header? name =
      ((otherHeaders request.headers).find? fun header => header.1.toLower == name).map
        Prod.snd := by
  rw [header?, otherHeaders, List.find?_filter]
  congr 2
  funext header
  by_cases h : header.1.toLower = name
  · simp [h, hname]
  · simp [h]

namespace Hub

variable {hub : Hub} {arrival : Arrival} {headers : List (String × String)}

lemma serve_withHeaders (h : (arrival.withHeaders headers).request.header? sessionHeader =
      arrival.request.header? sessionHeader) (query : Bytes) (route : Route) :
    hub.serve (arrival.withHeaders headers) query route = hub.serve arrival query route := by
  cases route with
  | health | version | events | messages => rfl
  | rpc =>
    simp only [serve, delete, post, h]
    rfl

/-- Without a token, headers that would show one make no difference. -/
lemma request_withHeaders (htoken : hub.config.authToken = none)
    (h : otherHeaders headers = otherHeaders arrival.request.headers) :
    hub.request (arrival.withHeaders headers) = hub.request arrival := by
  have hsession : (arrival.withHeaders headers).request.header? sessionHeader =
      arrival.request.header? sessionHeader := by
    rw [HttpRequest.header?_eq_otherHeaders (by decide),
      HttpRequest.header?_eq_otherHeaders (by decide)]
    exact congrArg (fun others => Option.map _ (List.find? _ others)) h
  have hauthorized : ∀ request : HttpRequest, request.isAuthorized none = true := fun _ => rfl
  simp only [request, Hub.route, htoken, hauthorized, serve_withHeaders hsession]
  rfl

/-- An open route asks for no token and does not look at headers. -/
lemma request_of_open (route : Route) (hopen : route.isGuarded = false)
    (hpath : arrival.path = route.path) :
    hub.Admits arrival ∧
      ∀ headers, hub.request (arrival.withHeaders headers) = hub.request arrival := by
  constructor
  · apply admits_of_authorized
    intro other hother hguarded
    rw [path_injective (hother.symm.trans hpath), hopen] at hguarded
    cases hguarded
  intro headers
  have hserved : route.isServed hub.config.transport = true := by
    cases route <;> first | rfl | cases hopen
  have hfound := Route.ofPath_eq_some_iff.2 ⟨hserved, hpath⟩
  have hfound' : Route.ofPath? hub.config.transport
      (Target.ofText (arrival.withHeaders headers).request.target).path = some route := hfound
  have hserve : ∀ query, hub.serve (arrival.withHeaders headers) query route =
      hub.serve arrival query route := by
    intro query
    cases route <;> first | rfl | cases hopen
  simp only [request, hfound, hfound', Hub.route, hopen, Bool.false_and, Bool.false_eq_true,
    if_false, hserve]
  rfl

/-- With a token, a request for a path of messages passes the gate exactly if it shows the token.
Any other one leaves the hub as it was, and all of them get the same answer if they have the same
path and method. The open routes do not look at headers, and without a token no header for it is
looked at. -/
theorem request_gate (hub : Hub) (arrival : Arrival) :
    (∀ token, hub.config.authToken = some token → arrival.Approaches hub →
      (hub.Admits arrival ↔ arrival.request.Presents token) ∧
        (¬ arrival.request.Presents token → ∃ response : HttpResponse, response.status = 401 ∧
          hub.request arrival = (hub, .response response) ∧
          ∀ (hub' : Hub) (arrival' : Arrival) (token' : String),
            hub'.config.authToken = some token' → arrival'.Approaches hub' →
            arrival'.path = arrival.path → arrival'.request.method = arrival.request.method →
            ¬ arrival'.request.Presents token' →
            hub'.request arrival' = (hub', .response response))) ∧
      (arrival.path = "/health" ∨ arrival.path = "/version" →
        hub.Admits arrival ∧
          ∀ headers, hub.request (arrival.withHeaders headers) = hub.request arrival) ∧
      (hub.config.authToken = none → ∀ headers,
        otherHeaders headers = otherHeaders arrival.request.headers →
          hub.request (arrival.withHeaders headers) = hub.request arrival) := by
  refine ⟨?_, ?_, ?_⟩
  · intro token htoken happroaches
    constructor
    · rw [admits_iff happroaches, htoken, HttpRequest.isAuthorized_iff]
    intro hpresents
    obtain ⟨route, hfound, hguarded⟩ := happroaches.exists_route
    refine ⟨route.refusal arrival.request.method, route.status_refusal _, ?_, ?_⟩
    · apply request_of_not_authorized happroaches.method_ne hfound hguarded
      rwa [htoken, HttpRequest.isAuthorized_iff]
    · intro hub' arrival' token' htoken' happroaches' hpath hmethod hpresents'
      obtain ⟨route', hfound', hguarded'⟩ := happroaches'.exists_route
      -- The path alone tells the route, whatever else the two hubs have.
      have hroute : route' = route := path_injective <|
        (Route.ofPath_eq_some_iff.1 hfound').2.symm.trans
          (hpath.trans (Route.ofPath_eq_some_iff.1 hfound).2)
      rw [← hmethod, ← hroute]
      apply request_of_not_authorized happroaches'.method_ne hfound' hguarded'
      rwa [htoken', HttpRequest.isAuthorized_iff]
  · rintro (hpath | hpath)
    · exact request_of_open .health rfl hpath
    · exact request_of_open .version rfl hpath
  · intro htoken headers hothers
    exact request_withHeaders htoken hothers

/-- The word in front of the token may be in capitals, but no other scheme will do. -/
theorem request_gate_dual :
    let hub := start { Config.standard with transport := .dual, authToken := some "s3cret" }
      ⟨1736942400, 0, by decide, by decide⟩
    let post (credentials : String) : Arrival :=
      ⟨⟨"POST", "/http", [("Authorization", credentials)], []⟩, "first", 0⟩
    hub.Admits (post "BEARER  s3cret ") ∧
      ∃ response : HttpResponse, response.status = 401 ∧
        hub.request (post "Basic s3cret") = (hub, .response response) := by
  intro hub post
  have hpath : (Target.ofText "/http").path = "/http" := by decide +kernel
  have hmethod : "POST" ≠ "OPTIONS" := by decide
  have happroaches : ∀ credentials, (post credentials).Approaches hub := fun _ =>
    ⟨hmethod, .inr ⟨hpath, rfl⟩⟩
  have hpresents : (post "BEARER  s3cret ").request.Presents "s3cret" :=
    HttpRequest.isAuthorized_iff.1 (by decide +kernel)
  have hother : ¬ (post "Basic s3cret").request.Presents "s3cret" := by
    rw [← HttpRequest.isAuthorized_iff]
    decide +kernel
  constructor
  · exact ((request_gate hub (post "BEARER  s3cret ")).1 "s3cret" rfl (happroaches _)).1.2
      hpresents
  · obtain ⟨response, hstatus, hrefused, -⟩ :=
      ((request_gate hub (post "Basic s3cret")).1 "s3cret" rfl (happroaches _)).2 hother
    exact ⟨response, hstatus, hrefused⟩

end Hub

end WorldClock
