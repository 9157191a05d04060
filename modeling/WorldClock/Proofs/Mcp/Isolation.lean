import WorldClock.Proofs.Mcp.Answers
/-!
# Clients that share a server

A server handles the messages of several sessions in any order, and all of them count in the same
metrics. Still nobody learns anything about the others but through a report of the metrics:
`isolation` compares what is answered on one session with what a server of its own would answer
there.
-/

namespace WorldClock

/-! ### Messages of one session -/

/-- How long the calls in some deliveries take together. -/
def timeDelivered (deliveries : List Delivery) : Duration :=
  (deliveries.map fun delivery => delivery.moment.elapsed).sum

@[simp] lemma timeDelivered_cons (delivery : Delivery) (deliveries : List Delivery) :
    timeDelivered (delivery :: deliveries) =
      delivery.moment.elapsed + timeDelivered deliveries := by
  simp [timeDelivered]

lemma timeOf_append_le {calls counted : List Call} {elapsed later : Duration}
    (hcounted : timeOf counted ≤ elapsed)
    (htime : timeOf calls + (elapsed + later) ≤ longestDuration) :
    timeOf (calls ++ counted) + later ≤ longestDuration := by
  rw [timeOf_append, Nat.add_assoc]
  exact (Nat.add_le_add_left (Nat.add_le_add_right hcounted later) _).trans htime

/-- The same delivery, with a call in it that takes some other time. -/
def Delivery.lasting (delivery : Delivery) (elapsed : Duration) : Delivery :=
  { delivery with moment := ⟨delivery.moment.now, elapsed⟩ }

/-- The deliveries on one session, at the same instants as among all others. The calls in them may
take other times. -/
def deliveriesOn (number : SessionNumber) (elapsed : ℕ → Duration) (deliveries : List Delivery) :
    List Delivery :=
  (deliveries.filter fun delivery => delivery.session = number).mapIdx fun index delivery =>
    delivery.lasting (elapsed index)

section

variable {number : SessionNumber} {elapsed : ℕ → Duration} {delivery : Delivery}
  {deliveries : List Delivery}

lemma deliveriesOn_cons_of_eq (h : delivery.session = number) :
    deliveriesOn number elapsed (delivery :: deliveries) =
      delivery.lasting (elapsed 0) ::
        deliveriesOn number (fun index => elapsed (index + 1)) deliveries := by
  simp [deliveriesOn, h]

lemma deliveriesOn_cons_of_ne (h : delivery.session ≠ number) :
    deliveriesOn number elapsed (delivery :: deliveries) =
      deliveriesOn number elapsed deliveries := by
  simp [deliveriesOn, h]

end

/-! ### Answers on one session -/

namespace Exchange

/-- What is answered to each of some deliveries, one after another. -/
def hearEach (exchange : Exchange) : List Delivery → List (Delivery × Answer)
  | [] => []
  | delivery :: deliveries =>
    (delivery, (exchange.hear delivery).2) :: (exchange.hear delivery).1.hearEach deliveries

/-- The messages that come on one session, with what is answered to them. -/
def heardOn (exchange : Exchange) (number : SessionNumber) (deliveries : List Delivery) :
    List (Bytes × Answer) :=
  ((exchange.hearEach deliveries).filter fun heard => heard.1.session = number).map fun heard =>
    (heard.1.message, heard.2)

variable {number : SessionNumber} {delivery : Delivery} {deliveries : List Delivery}

lemma heardOn_cons_of_eq (exchange : Exchange) (h : delivery.session = number) :
    exchange.heardOn number (delivery :: deliveries) =
      (delivery.message, (exchange.hear delivery).2) ::
        (exchange.hear delivery).1.heardOn number deliveries := by
  simp [heardOn, hearEach, h]

lemma heardOn_cons_of_ne (exchange : Exchange) (h : delivery.session ≠ number) :
    exchange.heardOn number (delivery :: deliveries) =
      (exchange.hear delivery).1.heardOn number deliveries := by
  simp [heardOn, hearEach, h]

/-! ### One message -/

variable {limit : Duration} {zones : ZoneTable} {calls others : List Call}
  {greeted greeted' : SessionNumber → Bool}

/-- An exchange in which some calls have been counted. -/
def counting (limit : Duration) (zones : ZoneTable) (calls : List Call)
    (greeted : SessionNumber → Bool) : Exchange :=
  ⟨.counting limit zones calls, greeted⟩

/-- A message has the server count the call in it, and concerns no other session. -/
lemma hear_counting (limit : Duration) (zones : ZoneTable) (calls : List Call)
    (greeted : SessionNumber → Bool) (delivery : Delivery) :
    ∃ counted, timeOf counted ≤ delivery.moment.elapsed ∧
      ((counting limit zones calls greeted).hear delivery).1 =
        counting limit zones (calls ++ counted)
          (Function.update greeted delivery.session
            (((counting limit zones calls greeted).hear delivery).1.greeted delivery.session)) := by
  refine ⟨Server.countedIn limit zones (greeted delivery.session) delivery.message delivery.moment,
    ?_, ?_⟩
  · simpa [timeOf] using Server.timeOf_append_countedIn_le limit zones [] (greeted delivery.session)
      delivery.message
  · simp [hear, counting, Server.server_handle_counting]

variable {room : Prop} {elapsed' : Duration}

/-- A message on a session is answered as if nobody else had been there, whatever calls of others
have been counted. -/
lemma hear_agrees (hgreeted : greeted delivery.session = greeted' delivery.session)
    (hroom : room → timeOf calls + delivery.moment.elapsed ≤ longestDuration)
    (hroom' : room → timeOf others + elapsed' ≤ longestDuration) :
    ((counting limit zones calls greeted).hear delivery).2.Agrees (AsksForMetrics delivery.message)
      (fun _ _ => True) room ((counting limit zones others greeted').hear
        (delivery.lasting elapsed')).2 := by
  have hlimit : (Server.counting limit zones calls).toolTimeout =
      (Server.counting limit zones others).toolTimeout := rfl
  simp only [hear, counting, Delivery.lasting, ← hgreeted]
  exact Server.handle_agrees hlimit rfl _ _ (fun hr => Metrics.hasRoom_ofCalls _ (hroom hr))
    (fun hr => Metrics.hasRoom_ofCalls _ (hroom' hr)) fun _ _ _ _ => trivial

/-- A session that stands the same on two servers does so after a message on it. -/
lemma hear_greeted_eq {exchange exchange' : Exchange}
    (h : exchange.greeted number = exchange'.greeted number) :
    (exchange.hear delivery).1.greeted number =
      (exchange'.hear (delivery.lasting elapsed')).1.greeted number := by
  rw [Bool.eq_iff_iff, hear_greeted_iff, hear_greeted_iff, h]
  rfl

lemma hear_greeted_of_ne {exchange : Exchange} (h : delivery.session ≠ number) :
    (exchange.hear delivery).1.greeted number = exchange.greeted number :=
  Function.update_of_ne (Ne.symm h) _ _

/-! ### Whole runs -/

lemma hearAll_greeted_eq {elapsed : ℕ → Duration} {exchange exchange' : Exchange}
    (h : exchange.greeted number = exchange'.greeted number) :
    (exchange.hearAll deliveries).greeted number =
      (exchange'.hearAll (deliveriesOn number elapsed deliveries)).greeted number := by
  induction deliveries generalizing exchange exchange' elapsed with
  | nil => exact h
  | cons delivery deliveries ih =>
    rw [hearAll_cons]
    by_cases hsession : delivery.session = number
    · rw [deliveriesOn_cons_of_eq hsession, hearAll_cons]
      exact ih (hear_greeted_eq h)
    · rw [deliveriesOn_cons_of_ne hsession]
      exact ih ((hear_greeted_of_ne hsession).trans h)

/-- The same message on two servers, and answers to it that may differ in what a report of the
metrics shows. -/
def HeardAlike (room : Prop) (heard heard' : Bytes × Answer) : Prop :=
  heard.1 = heard'.1 ∧
    heard.2.Agrees (AsksForMetrics heard.1) (fun _ _ => True) room heard'.2

lemma heardOn_alike {elapsed : ℕ → Duration} (hgreeted : greeted number = greeted' number)
    (hroom : room → timeOf calls + timeDelivered deliveries ≤ longestDuration)
    (hroom' : room → timeOf others + timeDelivered (deliveriesOn number elapsed deliveries) ≤
      longestDuration) :
    List.Forall₂ (HeardAlike room) ((counting limit zones calls greeted).heardOn number deliveries)
      ((counting limit zones others greeted').heardOn number
        (deliveriesOn number elapsed deliveries)) := by
  induction deliveries generalizing calls others greeted greeted' elapsed with
  | nil => exact .nil
  | cons delivery deliveries ih =>
    obtain ⟨counted, hcounted, hnext⟩ := hear_counting limit zones calls greeted delivery
    rw [timeDelivered_cons] at hroom
    by_cases hsession : delivery.session = number
    · subst hsession
      rw [deliveriesOn_cons_of_eq rfl] at hroom' ⊢
      rw [timeDelivered_cons] at hroom'
      have hsame : (delivery.lasting (elapsed 0)).session = delivery.session := rfl
      obtain ⟨counted', hcounted', hnext'⟩ :=
        hear_counting limit zones others greeted' (delivery.lasting (elapsed 0))
      rw [heardOn_cons_of_eq _ rfl, heardOn_cons_of_eq _ hsame, hnext, hnext', hsame]
      refine .cons ⟨rfl, hear_agrees hgreeted (fun hr => ?_) fun hr => ?_⟩
        (ih ?_ (fun hr => timeOf_append_le hcounted (hroom hr))
          fun hr => timeOf_append_le hcounted' (hroom' hr))
      · exact (Nat.add_le_add_left (Nat.le_add_right _ _) _).trans (hroom hr)
      · exact (Nat.add_le_add_left (Nat.le_add_right _ _) _).trans (hroom' hr)
      · simp only [Function.update_self]
        exact hear_greeted_eq hgreeted
    · rw [deliveriesOn_cons_of_ne hsession] at hroom' ⊢
      rw [heardOn_cons_of_ne _ hsession, hnext]
      refine ih ?_ (fun hr => timeOf_append_le hcounted (hroom hr)) hroom'
      rw [Function.update_of_ne (Ne.symm hsession), hgreeted]

/-- What happens on a session of a server that has counted any calls, and serves any other sessions
in between, is what happens if a new server is sent the messages on that session alone. Only a
report of the metrics may show something else, as long as the durations of all calls have a sum. -/
theorem isolation (limit : Duration) (zones : ZoneTable) (calls : List Call)
    (greeted : SessionNumber → Bool) (number : SessionNumber) (deliveries : List Delivery)
    (elapsed : ℕ → Duration) :
    let shared := counting limit zones calls greeted
    let alone : Exchange := ⟨.start limit zones, greeted⟩
    let own := deliveriesOn number elapsed deliveries
    (shared.hearAll deliveries).greeted number = (alone.hearAll own).greeted number ∧
      List.Forall₂
        (HeardAlike (timeOf calls + timeDelivered deliveries ≤ longestDuration ∧
          timeDelivered own ≤ longestDuration))
        (shared.heardOn number deliveries) (alone.heardOn number own) := by
  intro shared alone own
  refine ⟨hearAll_greeted_eq rfl, ?_⟩
  have hnew : alone = counting limit zones [] greeted := rfl
  rw [hnew]
  refine heardOn_alike rfl And.left fun hroom => ?_
  simpa [timeOf] using hroom.2

end Exchange

end WorldClock
