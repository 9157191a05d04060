import WorldClock.Proofs.Mcp.Turn
import WorldClock.Proofs.Outcome
/-!
# Past the greeting

A client is told that it has not greeted the server only if it has not and does not greet it now
(`Server.Course.not_refuses`). It is told so by the message of an error, and no method has an error
with this message, whatever the parameters of the request are.
-/

namespace WorldClock

/-- The message of the error for a request that comes before the greeting. -/
def ungreetedMessage : String := "Server not initialized"

/-- Whether a reply is an error with a message. -/
def Response.Refuses (reply : Response) (message : String) : Prop :=
  ∃ error, reply.outcome = .error error ∧ error.message = message

/-- Whether an answer is an error with a message. -/
def Answer.Refuses (answer : Answer) (message : String) : Prop :=
  ∃ reply, answer = .reply reply ∧ reply.Refuses message

section

variable {id : Option RequestId} {message : String}

@[simp] lemma Response.refuses_failure {error : RpcError} :
    (failure id error).Refuses message ↔ error.message = message := by
  simp [Refuses, failure]

@[simp] lemma Response.not_refuses_success {result : Json} :
    ¬ (success id result).Refuses message := by
  simp [Refuses, success]

@[simp] lemma Answer.refuses_reply {reply : Response} :
    (Answer.reply reply).Refuses message ↔ reply.Refuses message := by
  simp [Refuses]

@[simp] lemma Answer.not_refuses_silence : ¬ Answer.silence.Refuses message := by
  simp [Refuses]

@[simp] lemma Answer.not_refuses_stopped {cause : Breakdown} :
    ¬ (Answer.stopped cause).Refuses message := by
  simp [Refuses]

/-- A client is told of an error only if there is one. -/
lemma Answer.not_refuses_told {answer : Answer} (h : ¬ answer.Refuses message)
    (request : Request) : ¬ (request.told answer).Refuses message := by
  cases answer with
  | reply reply =>
    unfold Request.told
    dsimp only
    split_ifs
    · exact not_refuses_silence
    · exact h
  | silence => exact h
  | stopped cause => exact h

end

/-! ### Errors of methods -/

/-- A text that begins in another way is another text. -/
lemma append_ne_of_not_prefix (start : String) {text : String}
    (h : ¬ start.toList <+: text.toList) (rest : String) : start ++ rest ≠ text := by
  rintro rfl
  exact h (by simp)

lemma not_refuses_callTool (limit : Duration) (table : ZoneTable) (moment : Moment)
    (metrics : Metrics) (request : Request) :
    ¬ (callTool limit table moment metrics request).2.Refuses ungreetedMessage := by
  unfold callTool
  split
  · simp [RpcError.invalidParams, ungreetedMessage]
  · split
    · rw [Answer.refuses_reply, Response.refuses_failure]
      exact append_ne_of_not_prefix "Invalid tools/call params: " (by decide) _
    · split
      · simp
      · dsimp only
        split_ifs <;> simp

lemma message_rpcError (fault : Fault) : fault.rpcError.message = fault.message := by
  unfold Fault.rpcError
  split_ifs <;> rfl

/-- A resource cannot be read for one reason only. -/
lemma message_of_readResource {uri : String} {now : Instant} {metrics : Metrics}
    {table : ZoneTable} {fault : Fault}
    (h : readResource uri now metrics table = .ok (.error fault)) :
    fault.message = "Unknown resource: " ++ uri := by
  unfold readResource at h
  split at h
  · obtain ⟨_, -, hcontent⟩ := map_eq_ok_iff.1 h
    cases hcontent
  · cases h
    rfl

lemma not_refuses_answerReading (table : ZoneTable) (moment : Moment) (metrics : Metrics)
    (request : Request) :
    ¬ (answerReading table moment metrics request).Refuses ungreetedMessage := by
  unfold answerReading
  split
  · simp [RpcError.invalidParams, ungreetedMessage]
  · split
    · rw [Answer.refuses_reply, Response.refuses_failure]
      exact append_ne_of_not_prefix "Invalid resources/read params: " (by decide) _
    · split
      · simp
      · next hread =>
        rw [Answer.refuses_reply, Response.refuses_failure, message_rpcError,
          message_of_readResource hread]
        exact append_ne_of_not_prefix _ (by decide) _
      · simp

lemma not_refuses_dispatch (limit : Duration) (table : ZoneTable) (moment : Moment)
    (metrics : Metrics) (request : Request) :
    ¬ (dispatch limit table moment metrics request).2.Refuses ungreetedMessage := by
  unfold dispatch
  cases Method.ofName? request.method with
  | none =>
    rw [Answer.refuses_reply, Response.refuses_failure]
    exact append_ne_of_not_prefix "Method not found: " (by decide) _
  | some method =>
    cases method with
    | callTool => exact not_refuses_callTool limit table moment metrics request
    | readResource => exact not_refuses_answerReading table moment metrics request
    | greet | greeted | ping | listTools | listResources => simp

/-! ### Turns -/

namespace Server.Course

variable {server : Server} {moment : Moment} {greeted : Bool} {request : Request} {turn : Turn}

/-- A client that has greeted the server or greets it now is not told that it has not. -/
theorem not_refuses (h : Course server moment greeted request turn)
    (hpast : greeted = true ∨ request.method = Method.greet.name) :
    ¬ turn.answer.Refuses ungreetedMessage := by
  cases h with
  | otherVersion =>
    dsimp only
    refine Answer.not_refuses_told ?_ request
    simp [RpcError.invalidRequest, RpcError.invalidRequestWith, ungreetedMessage]
  | ungreeted hversion hmethod =>
    obtain hgreeted | hgreet := hpast
    · cases hgreeted
    · exact absurd hgreet hmethod
  | greeting =>
    dsimp only
    refine Answer.not_refuses_told ?_ request
    simp
  | carriedOut => exact Answer.not_refuses_told (not_refuses_dispatch _ _ _ _ _) request

/-- A greeting is not forgotten. -/
lemma greeted_of_greeted (h : Course server moment true request turn) : turn.greeted = true := by
  cases h <;> rfl

/-- A greeting that is answered with a result counts from then on. -/
lemma greeted_of_success (h : Course server moment greeted request turn)
    (hmethod : request.method = Method.greet.name) {reply : Response}
    (hreply : turn.answer = .reply reply) (hsuccess : reply.isSuccess = true) :
    turn.greeted = true := by
  cases h with
  | otherVersion =>
    dsimp only [Request.told] at hreply
    split_ifs at hreply
    cases hreply
    cases hsuccess
  | ungreeted hversion hmethod' => exact absurd hmethod hmethod'
  | greeting =>
    dsimp only [Request.told] at hreply
    split_ifs at hreply with hnotification
    simp [hnotification]
  | carriedOut hversion hmethod' => exact absurd hmethod hmethod'

end Server.Course

end WorldClock
