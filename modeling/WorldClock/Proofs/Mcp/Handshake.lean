import Mathlib.Logic.Function.Basic
import WorldClock.Proofs.Mcp.Turn
import WorldClock.Session.Registry
/-!
# The handshake

A server handles the messages of several sessions in any order (`Exchange`). On each session nothing
happens before the greeting: `handshake_gate` says that a new session comes to count as greeted by a
message that is a greeting and by nothing else, that before it every message is refused and leaves
the server as it was, and that a session that counts as greeted does so for ever.
-/

namespace WorldClock

/-! ### Exchanges of messages -/

/-- A message with the number of the session on which it comes, and the moment at which it is
handled. -/
structure Delivery where
  session : SessionNumber
  moment : Moment
  message : Bytes

/-- A server with its sessions. Of a session only counts whether the client has greeted. -/
structure Exchange where
  server : Server
  greeted : SessionNumber → Bool

namespace Exchange

/-- Gives a number to a session. -/
def enter (exchange : Exchange) (number : SessionNumber) (session : Session) : Exchange :=
  { exchange with greeted := Function.update exchange.greeted number session.greeted }

/-- Handles a message. -/
def hear (exchange : Exchange) (delivery : Delivery) : Exchange × Answer :=
  let turn := exchange.server.handle delivery.moment (exchange.greeted delivery.session)
    delivery.message
  (⟨turn.server, Function.update exchange.greeted delivery.session turn.greeted⟩, turn.answer)

/-- Handles some messages one after another. -/
def hearAll (exchange : Exchange) (deliveries : List Delivery) : Exchange :=
  deliveries.foldl (fun exchange delivery => (exchange.hear delivery).1) exchange

@[simp] lemma hearAll_nil (exchange : Exchange) : exchange.hearAll [] = exchange := rfl

@[simp] lemma hearAll_cons (exchange : Exchange) (delivery : Delivery)
    (deliveries : List Delivery) :
    exchange.hearAll (delivery :: deliveries) = (exchange.hear delivery).1.hearAll deliveries := rfl

lemma hearAll_append (exchange : Exchange) (earlier later : List Delivery) :
    exchange.hearAll (earlier ++ later) = (exchange.hearAll earlier).hearAll later :=
  List.foldl_append

end Exchange

/-! ### Greetings and refusals -/

/-- Whether a message is a greeting that is to be answered. -/
def IsGreeting (message : Bytes) : Prop :=
  ∃ request, Request.ofBytes? message = some request ∧ request.version = "2.0" ∧
    request.id.isSome = true ∧ request.method = "initialize"

/-- Whether an answer tells nothing, or only that the message cannot be read or is not allowed. -/
def Answer.IsRefusal (answer : Answer) : Prop :=
  answer = .silence ∨ ∃ id error, answer = .reply (.failure id error) ∧
    (error.code = -32700 ∨ error.code = -32600)

/-- A refused request is refused, whether its sender is told so or not. -/
lemma Answer.isRefusal_told (request : Request) (detail : String) :
    (request.told (.reply (.failure request.id (.invalidRequestWith detail)))).IsRefusal := by
  unfold Request.told
  split_ifs
  · exact .inl rfl
  · exact .inr ⟨request.id, _, rfl, .inr rfl⟩

namespace Server

/-- A turn makes a session count as greeted exactly if the message is a greeting. -/
lemma handle_greeted_iff (server : Server) (moment : Moment) (greeted : Bool) (message : Bytes) :
    (server.handle moment greeted message).greeted = true ↔
      greeted = true ∨ IsGreeting message := by
  cases hr : Request.ofBytes? message with
  | none => simp [handle_of_none _ _ _ hr, IsGreeting, hr]
  | some request =>
    have hcourse := Course.of_handle server moment greeted hr
    simp only [IsGreeting, hr, Option.some.injEq, exists_eq_left']
    rw [show ("2.0" : String) = rpcVersion from rfl,
      show ("initialize" : String) = Method.greet.name from rfl]
    generalize server.handle moment greeted message = turn at hcourse
    cases hcourse with
    | otherVersion hversion => simp [hversion]
    | ungreeted hversion hmethod => simp [hmethod]
    | greeting hversion hmethod => simp [hversion, hmethod, Request.isNotification]
    | carriedOut hversion hmethod => simp

/-- On a session without a greeting all other messages are refused. -/
lemma handle_refuses (server : Server) (moment : Moment) {message : Bytes}
    (h : ¬ IsGreeting message) :
    (server.handle moment false message).server = server ∧
      (server.handle moment false message).answer.IsRefusal := by
  cases hr : Request.ofBytes? message with
  | none =>
    rw [handle_of_none _ _ _ hr]
    exact ⟨rfl, .inr ⟨none, _, rfl, .inl rfl⟩⟩
  | some request =>
    have hcourse := Course.of_handle server moment false hr
    generalize server.handle moment false message = turn at hcourse
    cases hcourse with
    | otherVersion hversion => exact ⟨rfl, Answer.isRefusal_told request _⟩
    | ungreeted hversion hmethod => exact ⟨rfl, Answer.isRefusal_told request _⟩
    | greeting hversion hmethod =>
      -- A greeting that is no greeting here is one without an id, which nobody answers.
      have hn : request.isNotification = true := by
        by_contra hid
        have hsome : request.id.isSome = true :=
          Option.isSome_iff_ne_none.2 (by simpa [Request.isNotification] using hid)
        exact h ⟨request, hr, hversion, hsome, hmethod⟩
      exact ⟨rfl, .inl (by simp [Request.told, hn])⟩

end Server

/-! ### Whole runs -/

namespace Exchange

lemma hear_greeted_iff (exchange : Exchange) (delivery : Delivery) (number : SessionNumber) :
    (exchange.hear delivery).1.greeted number = true ↔ exchange.greeted number = true ∨
      delivery.session = number ∧ IsGreeting delivery.message := by
  unfold hear
  by_cases h : number = delivery.session
  · subst h
    simpa using Server.handle_greeted_iff _ _ _ _
  · simp [Function.update_of_ne h, Ne.symm h]

lemma hearAll_greeted_iff (exchange : Exchange) (deliveries : List Delivery)
    (number : SessionNumber) :
    (exchange.hearAll deliveries).greeted number = true ↔ exchange.greeted number = true ∨
      ∃ delivery ∈ deliveries, delivery.session = number ∧ IsGreeting delivery.message := by
  induction deliveries generalizing exchange with
  | nil => simp
  | cons delivery deliveries ih =>
    rw [hearAll_cons, ih, hear_greeted_iff, or_assoc]
    simp only [List.mem_cons, exists_eq_or_imp]

@[simp] lemma enter_opened_greeted (exchange : Exchange) (number : SessionNumber) (id : String)
    (surface : Surface) (now : Duration) :
    (exchange.enter number (.opened id surface now)).greeted number = false := by
  simp [enter, Session.opened]

/-- The gate in front of a new session, whatever else the server does for other sessions. -/
theorem handshake_gate (exchange : Exchange) (number : SessionNumber) (id : String)
    (surface : Surface) (now : Duration) (deliveries : List Delivery) :
    let start := exchange.enter number (.opened id surface now)
    ((start.hearAll deliveries).greeted number = true ↔
      ∃ delivery ∈ deliveries, delivery.session = number ∧ IsGreeting delivery.message) ∧
    (∀ earlier delivery later, deliveries = earlier ++ delivery :: later →
      delivery.session = number →
      (∀ sofar ∈ earlier ++ [delivery], sofar.session = number → ¬ IsGreeting sofar.message) →
      ((start.hearAll earlier).hear delivery).1.server = (start.hearAll earlier).server ∧
      ((start.hearAll earlier).hear delivery).2.IsRefusal) ∧
    (∀ earlier later, deliveries = earlier ++ later →
      (start.hearAll earlier).greeted number = true →
      (start.hearAll deliveries).greeted number = true) := by
  intro start
  have hstart : start.greeted number = false := enter_opened_greeted ..
  refine ⟨?_, ?_, ?_⟩
  · rw [hearAll_greeted_iff, hstart]
    simp
  · intro earlier delivery later _ hsession hnone
    have hbefore : (start.hearAll earlier).greeted delivery.session = false := by
      rw [Bool.eq_false_iff, ne_eq, hsession, hearAll_greeted_iff, hstart]
      rintro (h | ⟨sofar, hmem, hnumber, hgreeting⟩)
      · exact Bool.false_ne_true h
      · exact hnone sofar (List.mem_append_left _ hmem) hnumber hgreeting
    have hthis : ¬ IsGreeting delivery.message :=
      hnone delivery (by simp) hsession
    unfold hear
    rw [hbefore]
    exact Server.handle_refuses _ _ hthis
  · rintro earlier later rfl h
    rw [hearAll_append, hearAll_greeted_iff]
    exact .inl h

end Exchange

end WorldClock
