import WorldClock.Proofs.Hub.Course
/-!
# Refusals

A request is refused on many grounds: for its path, its token, its method, its length, a body that
cannot be read, or a session that is not named, cannot be read, or is not known. All of them have in
common that the hub is as it was before (`Hub.eq_of_refused`), as each part of a request either
refuses it before anything has changed, or answers with another status (`Hub.Concludes`).
-/

namespace WorldClock

/-! ### Statuses -/

/-- The status of the response in a reaction. -/
def Reaction.status? : Reaction → Option Nat
  | .response answer => some answer.status
  | .stream answer _ => some answer.status
  | .waiting _ | .stopped _ => none

namespace Reaction

@[simp] lemma status?_response (response : HttpResponse) :
    (Reaction.response response).status? = some response.status := rfl

@[simp] lemma status?_stream (response : HttpResponse) (number : StreamNumber) :
    (Reaction.stream response number).status? = some response.status := rfl

@[simp] lemma status?_waiting (ticket : Ticket) : (Reaction.waiting ticket).status? = none := rfl

@[simp] lemma status?_stopped (cause : Breakdown) : (Reaction.stopped cause).status? = none := rfl

lemma status?_mapResponse {change : HttpResponse → HttpResponse}
    (h : ∀ response, (change response).status = response.status) (reaction : Reaction) :
    (reaction.mapResponse change).status? = reaction.status? := by
  cases reaction <;> simp [mapResponse, h]

/-- A reaction does not refuse a request: if it has a status, the request was carried out, or the
stream for the reply to it is gone. -/
def Accepts (reaction : Reaction) : Prop :=
  ∀ status, reaction.status? = some status → status ∈ [200, 202, 204, 410]

lemma accepts_of_status {response : HttpResponse} (h : response.status ∈ [200, 202, 204, 410]) :
    (Reaction.response response).Accepts := by
  rintro status ⟨⟩
  exact h

lemma accepts_stopped (cause : Breakdown) : (Reaction.stopped cause).Accepts := nofun

end Reaction

namespace Hub

/-! ### Refused or accepted -/

/-- What comes of a request to a hub: it is refused with one of some statuses and changes nothing,
or it is accepted. -/
inductive Concludes (hub : Hub) (refusals : List Nat) : Hub × Reaction → Prop
  | refused {response : HttpResponse} (h : response.status ∈ refusals) :
      Concludes hub refusals (hub, .response response)
  | accepted {outcome : Hub × Reaction} (h : outcome.2.Accepts) :
      Concludes hub refusals outcome

namespace Concludes

variable {hub : Hub} {refusals : List Nat} {outcome : Hub × Reaction}

lemma mono {refusals' : List Nat} (h : Concludes hub refusals outcome)
    (hsub : refusals ⊆ refusals') : Concludes hub refusals' outcome := by
  cases h with
  | refused h => exact .refused (hsub h)
  | accepted h => exact .accepted h

lemma mapResponse {change : HttpResponse → HttpResponse}
    (hchange : ∀ response, (change response).status = response.status)
    (h : Concludes hub refusals outcome) :
    Concludes hub refusals (outcome.1, outcome.2.mapResponse change) := by
  cases h with
  | refused h => exact .refused (by rwa [hchange])
  | accepted h =>
    refine .accepted fun status hstatus => h status ?_
    rwa [Reaction.status?_mapResponse hchange] at hstatus

lemma status_mem (h : Concludes hub refusals outcome) {status : Nat}
    (hstatus : outcome.2.status? = some status) :
    status ∈ refusals ∨ status ∈ [200, 202, 204, 410] := by
  cases h with
  | refused h =>
    cases hstatus
    exact .inl h
  | accepted h => exact .inr (h status hstatus)

end Concludes

variable (hub : Hub) (arrival : Arrival)

/-! ### Parts of requests -/

lemma accepts_reactionTo (answer : Answer) : (reactionTo answer).Accepts := by
  cases answer with
  | silence => exact Reaction.accepts_of_status (by simp [HttpResponse.bare])
  | reply reply => exact Reaction.accepts_of_status (by simp [HttpResponse.json])
  | stopped cause => exact Reaction.accepts_stopped cause

lemma accepts_accepted : (Reaction.response accepted).Accepts :=
  Reaction.accepts_of_status (by simp [accepted, HttpResponse.text])

lemma accepts_deliver (number : SessionNumber) (session : Session) (reply : Response) :
    (hub.deliver number session reply).2.Accepts := by
  unfold deliver
  split
  · exact accepts_accepted
  · nofun
  · exact Reaction.accepts_of_status (by simp [HttpResponse.text])

lemma accepts_hearForStream (elapsed : Duration) (number : SessionNumber) (session : Session)
    (message : Bytes) : (hub.hearForStream elapsed number session message).2.Accepts := by
  unfold hearForStream
  split
  · exact accepts_accepted
  · exact Reaction.accepts_stopped _
  · split
    · exact accepts_deliver _ _ _ _
    · exact accepts_accepted

lemma concludes_postForStream (query : Bytes) :
    Concludes hub [400, 404, 413] (hub.postForStream arrival query) := by
  unfold postForStream
  split
  · exact .refused (by simp [HttpResponse.text])
  · split_ifs <;> exact .refused (by simp [tooLong, HttpResponse.text])
  · split_ifs
    · exact .refused (by simp [tooLong, HttpResponse.text])
    · split
      · exact .refused (by simp [HttpResponse.text])
      · exact .accepted (accepts_hearForStream _ _ _ _ _)

lemma accepts_postWithoutSession (request : Request) :
    (hub.postWithoutSession arrival request).2.Accepts := by
  have hkeeps : ∀ response : HttpResponse,
      (response.withHeader sessionHeader arrival.freshId).status = response.status := fun _ => rfl
  dsimp only [postWithoutSession]
  split_ifs
  · intro status hstatus
    rw [Reaction.status?_mapResponse hkeeps] at hstatus
    exact accepts_reactionTo _ status hstatus
  · exact accepts_reactionTo _
  · exact accepts_reactionTo _

lemma concludes_post : Concludes hub [400, 404, 413] (hub.post arrival) := by
  unfold post
  split_ifs
  · exact .refused (by simp [tooLong, HttpResponse.text])
  · split
    · exact .refused (by simp [HttpResponse.json])
    · split
      · exact .accepted (accepts_postWithoutSession _ _ _)
      · split_ifs
        · exact .refused (by simp [HttpResponse.text])
        · split
          · exact .refused (by simp [HttpResponse.text])
          · split
            · exact .refused (by simp [HttpResponse.text])
            · exact .accepted (accepts_reactionTo _)

lemma concludes_delete (request : HttpRequest) :
    Concludes hub [400, 404] ((hub.delete request).1, .response (hub.delete request).2) := by
  unfold delete
  split
  · exact .refused (by simp [HttpResponse.bare])
  · split
    · exact .refused (by simp [HttpResponse.bare])
    · exact .accepted (Reaction.accepts_of_status (by simp [HttpResponse.bare]))

/-- Behind the gate a request is refused for what it says, and for nothing else. -/
lemma concludes_serve (query : Bytes) (route : Route) :
    Concludes hub [400, 404, 413] (hub.serve arrival query route) := by
  cases route with
  | health | version => exact .accepted (Reaction.accepts_of_status (by simp [HttpResponse.json]))
  | events =>
    simp only [serve]
    split
    · exact .accepted (Reaction.accepts_stopped _)
    · split_ifs
      · exact .accepted (Reaction.accepts_of_status (by simp [streamResponse]))
      · exact .accepted (by rintro status ⟨⟩; simp [streamResponse])
  | messages => exact concludes_postForStream hub arrival query
  | rpc =>
    simp only [serve]
    split_ifs
    · exact (concludes_delete hub arrival.request).mono (by simp)
    · exact concludes_post hub arrival

/-! ### Requests -/

@[simp] lemma status_listMethods (route : Route) (method : String) (response : HttpResponse) :
    (route.listMethods method response).status = response.status := by
  unfold Route.listMethods
  split_ifs <;> rfl

lemma concludes_route (query : Bytes) (route : Route) :
    Concludes hub [400, 401, 404, 405, 413] (hub.route arrival query route) := by
  simp only [Hub.route]
  split_ifs
  · exact .refused (by simp [unauthorized, HttpResponse.withHeader, HttpResponse.text])
  · exact .refused (by simp [HttpResponse.bare])
  · exact (concludes_serve hub arrival query route).mono (by simp)

/-- A request is refused and changes nothing, or it is accepted. -/
theorem concludes_request : Concludes hub [400, 401, 404, 405, 413] (hub.request arrival) := by
  simp only [request]
  split_ifs
  · exact .accepted (Reaction.accepts_of_status (by simp [preflight]))
  · split
    · exact .refused (by simp [HttpResponse.bare, HttpResponse.shared, HttpResponse.withHeader])
    · exact (concludes_route hub arrival _ _).mapResponse (status_complete _ _)

variable {hub arrival}

/-- A request that is refused leaves no trace: the sessions with all that is queued for them, the
metrics, and everything else are as they were. -/
theorem eq_of_refused {status : Nat} (hstatus : (hub.request arrival).2.status? = some status)
    (hrefused : status ∈ [400, 401, 404, 405, 413]) : (hub.request arrival).1 = hub := by
  have hconcludes := concludes_request hub arrival
  generalize hub.request arrival = outcome at hstatus hconcludes
  cases hconcludes with
  | refused _ => rfl
  | accepted haccepts =>
    have hother : ∀ status ∈ [400, 401, 404, 405, 413], status ∉ [200, 202, 204, 410] := by decide
    exact absurd (haccepts status hstatus) (hother status hrefused)

/-- The end of a session that is not known is refused, and the one that is there stays. -/
theorem eq_of_refused_unknown :
    let hub := (start { Config.standard with transport := .http }
      ⟨1736942400, 0, by decide, by decide⟩).openSession "first" .http true
    let arrival : Arrival :=
      ⟨⟨"DELETE", "/http", [("mcp-session-id", "second")], []⟩, "third", 0⟩
    (hub.request arrival).2.status? = some 404 ∧ (hub.request arrival).1 = hub := by
  intro hub arrival
  have hstatus : (hub.request arrival).2.status? = some 404 := by decide +kernel
  exact ⟨hstatus, eq_of_refused hstatus (by decide)⟩

end Hub

end WorldClock
