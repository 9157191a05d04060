import WorldClock.Proofs.Config.Resolve
import WorldClock.Proofs.Hub.Bearer
import WorldClock.Proofs.Rpc.Text
import WorldClock.Proofs.Text.Blank
/-!
# Tokens that no request can show

Any text but the empty one is taken as a token when the server starts. At the gate, though, the
blanks around the token that a request shows are dropped, and its header has to be readable as text.
So a token with blanks around it, or with characters that a header may not have, is one that no
request can show, and the server refuses all messages (`Hub.bearer_passes_iff`).
-/

namespace WorldClock

/-- A token that a request can show: a text for a header, with no blanks around it. -/
structure Presentable (token : String) : Prop where
  readable : isReadable token = true
  trimmed : Text.trimmed token.toList = token.toList

instance (token : String) : Decidable (Presentable token) :=
  decidable_of_iff (isReadable token = true ∧ Text.trimmed token.toList = token.toList)
    ⟨fun ⟨hreadable, htrimmed⟩ => ⟨hreadable, htrimmed⟩, fun h => ⟨h.readable, h.trimmed⟩⟩

variable {request : HttpRequest} {token : String}

lemma HttpRequest.Presents.presentable (h : request.Presents token) : Presentable token := by
  obtain ⟨value, -, hreadable, word, rest, hvalue, -, htoken⟩ := h
  have hsub : token.toList ⊆ value.toList := by
    intro c hc
    rw [← htoken] at hc
    apply Text.trimmed_subset value.toList
    rw [hvalue]
    exact List.mem_append_right _ (.tail _ (Text.trimmed_subset rest hc))
  constructor
  · rw [isReadable, List.all_eq_true] at hreadable ⊢
    exact fun c hc => hreadable c (hsub hc)
  · rw [← htoken, Text.trimmed_trimmed]

/-- The plain way to show a token works for all tokens that can be shown at all. -/
lemma HttpRequest.presents_iff_of_bearer (hne : token ≠ "")
    (hheader : request.header? "authorization" = some ("Bearer " ++ token)) :
    request.Presents token ↔ Presentable token := by
  refine ⟨Presents.presentable, fun h =>
    ⟨_, hheader, ?_, "Bearer".toList, token.toList, ?_, ?_, ?_⟩⟩
  · have hword : "Bearer ".toList.all isHeaderChar = true := by decide
    rw [isReadable, String.toList_append, List.all_append, hword, Bool.true_and]
    exact h.readable
  · have hsplit : ("Bearer " ++ token).toList = "Bearer".toList ++ ' ' :: token.toList := by
      rw [String.toList_append]
      rfl
    rw [hsplit, Text.trimmed_eq_self_iff]
    constructor
    · intro c hc
      cases hc
      decide
    · intro c hc
      have hne' : token.toList ≠ [] := fun hnil => hne (String.toList_eq_nil_iff.1 hnil)
      rw [List.getLast?_append_of_ne_nil _ (List.cons_ne_nil _ _),
        List.getLast?_cons_of_ne_nil hne'] at hc
      exact (Text.trimmed_eq_self_iff.1 h.trimmed).2 c hc
  · decide
  · exact h.trimmed

/-! ### The gate -/

namespace Hub

variable {hub : Hub} {arrival : Arrival}

/-- What needs no token is not refused for want of one. -/
lemma status?_request_ne_of_not_approaches (h : ¬ arrival.Approaches hub) :
    (hub.request arrival).2.status? ≠ some 401 := by
  by_cases hmethod : arrival.request.method = "OPTIONS"
  · simp [request, hmethod, preflight]
  cases hfound : Route.ofPath? hub.config.transport arrival.path with
  | none =>
    have hmissing : Route.ofPath? hub.config.transport
        (Target.ofText arrival.request.target).path = none := hfound
    simp [request, hmethod, hmissing, HttpResponse.bare, HttpResponse.shared,
      HttpResponse.withHeader]
  | some route =>
    have hopen : route.isGuarded = false := by
      obtain ⟨hserved, hpath⟩ := Route.ofPath_eq_some_iff.1 hfound
      cases route with
      | health | version => rfl
      | events => exact absurd ⟨hmethod, .inl ⟨.inl hpath, hserved⟩⟩ h
      | messages => exact absurd ⟨hmethod, .inl ⟨.inr hpath, hserved⟩⟩ h
      | rpc => exact absurd ⟨hmethod, .inr ⟨hpath, hserved⟩⟩ h
    rw [request_of_found hmethod hfound, Reaction.status?_mapResponse (status_complete route _),
      Hub.route, hopen, Bool.false_and, if_neg Bool.false_ne_true]
    split_ifs
    · simp [HttpResponse.bare]
    · exact status?_serve_ne hub arrival _ route

/-- The requests that are refused for want of a token are those for messages that do not show it. -/
lemma status?_request_eq_iff :
    (hub.request arrival).2.status? = some 401 ↔
      arrival.Approaches hub ∧ ¬ arrival.request.isAuthorized hub.config.authToken = true := by
  constructor
  · intro hstatus
    have happroaches : arrival.Approaches hub := by
      by_contra h
      exact status?_request_ne_of_not_approaches h hstatus
    obtain ⟨route, hfound, -⟩ := happroaches.exists_route
    exact ⟨happroaches, fun hauthorized =>
      status?_request_ne happroaches.method_ne hfound hauthorized hstatus⟩
  · rintro ⟨happroaches, hauthorized⟩
    obtain ⟨route, hfound, hguarded⟩ := happroaches.exists_route
    rw [request_of_not_authorized happroaches.method_ne hfound hguarded hauthorized]
    simp

/-- A request that shows the token in the plain way passes exactly if the token can be shown at all.
If it cannot, all requests for messages are refused. -/
theorem bearer_passes_iff {arguments : List String} {env : Environment} {token : String}
    (hub : Hub) (haccepted : Config.ofArguments arguments env = .ok hub.config)
    (htoken : hub.config.authToken = some token) (arrival : Arrival)
    (hheader : arrival.request.header? "authorization" = some ("Bearer " ++ token)) :
    ((hub.request arrival).2.status? ≠ some 401 ↔
        (arrival.Approaches hub → Presentable token)) ∧
      (arrival.Approaches hub → (hub.Admits arrival ↔ Presentable token)) ∧
      (¬ Presentable token → ∀ other : Arrival, other.Approaches hub →
        ¬ hub.Admits other ∧ (hub.request other).2.status? = some 401) := by
  have hne : token ≠ "" := Config.ne_empty_of_ofArguments haccepted htoken
  have hshows : arrival.request.isAuthorized hub.config.authToken = true ↔ Presentable token := by
    rw [htoken, HttpRequest.isAuthorized_iff, HttpRequest.presents_iff_of_bearer hne hheader]
  refine ⟨?_, ?_, ?_⟩
  · rw [Ne, status?_request_eq_iff, hshows, not_and, not_not]
  · intro happroaches
    rw [admits_iff happroaches, hshows]
  · intro hunfit other happroaches
    have hother : ¬ other.request.isAuthorized hub.config.authToken = true := by
      rw [htoken, HttpRequest.isAuthorized_iff]
      exact fun hpresents => hunfit hpresents.presentable
    exact ⟨fun hadmits => hother ((admits_iff happroaches).1 hadmits),
      status?_request_eq_iff.2 ⟨happroaches, hother⟩⟩

/-- The configuration of a server on the network that is told a token. -/
def tokenConfig (token : String) : Config :=
  { Config.standard with transport := .http, authToken := some token }

/-- A `ping` with credentials. -/
def pingWith (credentials : String) : Arrival :=
  ⟨⟨"POST", "/http", [("Authorization", credentials)],
    .ofText "\x7b\"jsonrpc\":\"2.0\",\"id\":1,\"method\":\"ping\"\x7d"⟩, "first", 0⟩

/-- A token with a blank inside can be shown. -/
theorem bearer_passes_inner_blank :
    let hub := start (tokenConfig "s3 cret") ⟨1736942400, 0, by decide, by decide⟩
    (pingWith "Bearer s3 cret").Approaches hub ∧ hub.Admits (pingWith "Bearer s3 cret") := by
  intro hub
  have haccepted : Config.ofArguments ["server", "--transport=http", "--auth-token=s3 cret"]
      (fun _ => none) = .ok hub.config := by decide +kernel
  have happroaches : (pingWith "Bearer s3 cret").Approaches hub :=
    ⟨by decide, .inr ⟨by decide +kernel, rfl⟩⟩
  refine ⟨happroaches, ?_⟩
  exact ((bearer_passes_iff hub haccepted rfl (pingWith "Bearer s3 cret") (by decide +kernel)).2.1
    happroaches).2 (by decide +kernel)

/-- A token with a blank in front is accepted when the server starts, and then nothing that shows it
passes. -/
theorem bearer_refused_outer_blank :
    let hub := start (tokenConfig " s3cret") ⟨1736942400, 0, by decide, by decide⟩
    let ping := pingWith ("Bearer " ++ " s3cret")
    Config.ofArguments ["server", "--transport=http", "--auth-token= s3cret"] (fun _ => none) =
        .ok hub.config ∧
      hub.config.authToken = some " s3cret" ∧ ping.Approaches hub ∧
      ping.request.header? "authorization" = some ("Bearer " ++ " s3cret") ∧
      (hub.request ping).2.status? = some 401 := by
  intro hub ping
  have happroaches : ping.Approaches hub := ⟨by decide, .inr ⟨by decide +kernel, rfl⟩⟩
  have hother : ¬ ping.request.isAuthorized (some " s3cret") = true := by decide +kernel
  exact ⟨by decide +kernel, rfl, happroaches, by decide +kernel,
    status?_request_eq_iff.2 ⟨happroaches, hother⟩⟩

end Hub

end WorldClock
