import Mathlib.Tactic
import WorldClock.Mcp.Server
/-!
# Turns of the server

What can come of a message, by cases. A request is refused for its version or because its client has
not greeted the server, or it is a greeting, or it is carried out for a client that has greeted. All
that is known of single turns is derived from `Server.Course.of_handleRequest`, which is the only
place where the order of the checks matters.
-/

namespace WorldClock

/-- What a client is told: the sender of a notification gets no reply. -/
def Request.told (request : Request) : Answer → Answer
  | .reply response => if request.isNotification then .silence else .reply response
  | answer => answer

namespace Server

/-! ### Greetings -/

@[simp] lemma ofName_greet : Method.ofName? Method.greet.name = some .greet := by decide

/-- A greeting is carried out without a look at its parameters. -/
lemma dispatch_greet (limit : Duration) (table : ZoneTable) (moment : Moment) (metrics : Metrics)
    {request : Request} (h : request.method = Method.greet.name) :
    dispatch limit table moment metrics request =
      (metrics, .reply (.success request.id (greetingResult request.params))) := by
  simp only [dispatch, h, ofName_greet]

lemma carryOut_greet (server : Server) (moment : Moment) (greeted : Bool) {request : Request}
    (h : request.method = Method.greet.name) :
    server.carryOut moment greeted request =
      ⟨server, greeted || !request.isNotification,
        request.told (.reply (.success request.id (greetingResult request.params)))⟩ := by
  simp only [carryOut, dispatch_greet _ _ _ _ h, Request.told]
  by_cases hn : request.isNotification = true
  · simp [hn]
  · simp [hn, h, Response.isSuccess, Response.success]

/-- A greeting that is to be answered is answered with a result, and counts from then on. -/
lemma handleRequest_greet (server : Server) (moment : Moment) (greeted : Bool) {request : Request}
    (hversion : request.version = rpcVersion) (hmethod : request.method = Method.greet.name)
    (hid : request.isNotification = false) :
    server.handleRequest moment greeted request =
      ⟨server, true, .reply (.success request.id (greetingResult request.params))⟩ := by
  rw [handleRequest, if_neg (not_not_intro hversion), if_neg (by simp [hmethod]),
    carryOut_greet _ _ _ hmethod]
  simp [Request.told, hid]

/-- For a client that has greeted, the metrics and the answer are those of the method. -/
lemma carryOut_of_greeted (server : Server) (moment : Moment) (request : Request) :
    server.carryOut moment true request =
      let done := dispatch server.toolTimeout server.zones moment server.metrics request
      ⟨{ server with metrics := done.1 }, true, request.told done.2⟩ := by
  unfold carryOut
  rcases dispatch server.toolTimeout server.zones moment server.metrics request with
    ⟨metrics, answer⟩
  cases answer with
  | silence => rfl
  | stopped cause => rfl
  | reply response => by_cases hn : request.isNotification = true <;> simp [Request.told, hn]

/-! ### The course of a turn -/

/-- What can come of a request of a client that has greeted the server or has not. -/
inductive Course (server : Server) (moment : Moment) : Bool → Request → Turn → Prop
  | otherVersion {greeted : Bool} {request : Request} (hversion : request.version ≠ rpcVersion) :
      Course server moment greeted request
        ⟨server, greeted, request.told (.reply (.failure request.id .invalidRequest))⟩
  | ungreeted {request : Request} (hversion : request.version = rpcVersion)
      (hmethod : request.method ≠ Method.greet.name) :
      Course server moment false request
        ⟨server, false, request.told
          (.reply (.failure request.id (.invalidRequestWith "Server not initialized")))⟩
  | greeting {greeted : Bool} {request : Request} (hversion : request.version = rpcVersion)
      (hmethod : request.method = Method.greet.name) :
      Course server moment greeted request
        ⟨server, greeted || !request.isNotification,
          request.told (.reply (.success request.id (greetingResult request.params)))⟩
  | carriedOut {request : Request} (hversion : request.version = rpcVersion)
      (hmethod : request.method ≠ Method.greet.name) :
      Course server moment true request
        ⟨{ server with
            metrics := (dispatch server.toolTimeout server.zones moment server.metrics request).1 },
          true, request.told
            (dispatch server.toolTimeout server.zones moment server.metrics request).2⟩

theorem Course.of_handleRequest (server : Server) (moment : Moment) (greeted : Bool)
    (request : Request) :
    Course server moment greeted request (server.handleRequest moment greeted request) := by
  unfold handleRequest
  by_cases hversion : request.version = rpcVersion
  · rw [if_neg (not_not_intro hversion)]
    by_cases hmethod : request.method = Method.greet.name
    · rw [if_neg (by simp [hmethod]), carryOut_greet server moment greeted hmethod]
      exact .greeting hversion hmethod
    · cases greeted with
      | false =>
        rw [if_pos (by simp [hmethod])]
        exact .ungreeted hversion hmethod
      | true =>
        rw [if_neg (by simp), carryOut_of_greeted]
        exact .carriedOut hversion hmethod
  · rw [if_pos hversion]
    exact .otherVersion hversion

/-- The turn of a message that is no request. -/
lemma handle_of_none (server : Server) (moment : Moment) (greeted : Bool) {message : Bytes}
    (h : Request.ofBytes? message = none) :
    server.handle moment greeted message =
      ⟨server, greeted, .reply (.failure none .parseError)⟩ := by
  simp only [handle, h]

/-- The turn of a message that is a request. -/
lemma Course.of_handle (server : Server) (moment : Moment) (greeted : Bool) {message : Bytes}
    {request : Request} (h : Request.ofBytes? message = some request) :
    Course server moment greeted request (server.handle moment greeted message) := by
  simp only [handle, h]
  exact .of_handleRequest server moment greeted request

end Server

end WorldClock
