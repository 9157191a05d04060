import WorldClock.Proofs.Hub.Scene
/-!
# Messages on their way

A message that is posted for a stream is handled in steps, between which anything else can happen:
its session is found, it is handled, its reply is sent, and if there is no room for the reply, it
waits in line until it moves in or is refused (`Posting`). The steps of one message, taken without a
pause, are what a request does as a whole (`Traffic.request_proceed_proceed`).
-/

namespace WorldClock

/-! ### Postings -/

/-- How far the handling of a message has come. -/
inductive Stage
  /-- Its session has been found. -/
  | found
  /-- It has been handled, and a reply to it is to be sent. -/
  | owing (reply : Response)
  /-- The reply stands in line. -/
  | waiting (ticket : Ticket) (reply : Response)
  /-- It is answered. The reply is the one that was due, if one was. -/
  | answered (reply : Option Response) (response : HttpResponse)
  /-- Its handling came to an end without a response. -/
  | stopped (cause : Breakdown)
  /-- Its sender has gone away while the reply stood in line. -/
  | abandoned (reply : Response)

/-- A message that has reached the session of a stream. -/
structure Posting where
  arrival : Arrival
  session : SessionNumber
  stage : Stage

/-- The number of a posting: how many came before it. -/
abbrev PostingNumber := Nat

namespace Stage

/-- The response to a message that was taken. -/
def taken : HttpResponse := Hub.complete .messages "POST" Hub.accepted

/-- The response to a message that was handled in vain. -/
def gone : HttpResponse :=
  Hub.complete .messages "POST" (.text 410 "Session stream closed")

/-- How far a message has come when it has been handled. -/
def ofAnswer : Answer → Stage
  | .silence => answered none taken
  | .reply reply => owing reply
  | .stopped cause => stopped cause

/-- How far a message has come when its reply has been sent. -/
def ofReaction (reply : Response) : Reaction → Stage
  | .response response | .stream response _ => answered (some reply) response
  | .waiting ticket => waiting ticket reply
  | .stopped cause => stopped cause

/-- The reaction to a message, if there is one already. -/
def reaction? : Stage → Option Reaction
  | found | owing _ | abandoned _ => none
  | waiting ticket _ => some (.waiting ticket)
  | answered _ response => some (.response response)
  | stopped cause => some (.stopped cause)

/-- What came of a message, once it has been handled. -/
def answer? : Stage → Option Answer
  | found => none
  | owing reply | waiting _ reply | abandoned reply | answered (some reply) _ =>
    some (.reply reply)
  | answered none _ => some .silence
  | stopped cause => some (.stopped cause)

end Stage

namespace Posting

/-- Whether the reply to a message stands in line with a ticket. -/
def waitsWith (ticket : Ticket) (posting : Posting) : Bool :=
  match posting.stage with
  | .waiting ticket' _ => ticket' == ticket
  | _ => false

/-- Refuses the reply to a message if it stands in line with one of some tickets. -/
def refuse (tickets : List Ticket) (posting : Posting) : Posting :=
  match posting.stage with
  | .waiting ticket reply =>
    if tickets.contains ticket then { posting with stage := .answered (some reply) Stage.gone }
    else posting
  | _ => posting

/-- What becomes of a message when some replies in line are refused. -/
lemma refuse_cases (tickets : List Ticket) (posting : Posting) :
    (∃ ticket ∈ tickets, ∃ reply, posting.stage = .waiting ticket reply ∧
        posting.refuse tickets = { posting with stage := .answered (some reply) Stage.gone }) ∨
      posting.refuse tickets = posting ∧
        ∀ ticket reply, posting.stage = .waiting ticket reply → ticket ∉ tickets := by
  unfold refuse
  split
  · next ticket reply hstage =>
    split_ifs with hmem
    · exact .inl ⟨ticket, List.contains_iff_mem.1 hmem, reply, hstage, rfl⟩
    · refine .inr ⟨rfl, fun ticket' reply' hstage' hmem' => ?_⟩
      rw [hstage, Stage.waiting.injEq] at hstage'
      exact hmem (List.contains_iff_mem.2 (hstage'.1 ▸ hmem'))
  · next hstage =>
    exact .inr ⟨rfl, fun ticket reply hstage' => absurd hstage' (hstage ticket reply)⟩

/-- A message whose reply still stands in line is not refused. -/
lemma stage_of_refuse {tickets : List Ticket} {posting : Posting} {ticket : Ticket}
    {reply : Response} (h : (posting.refuse tickets).stage = .waiting ticket reply) :
    posting.stage = .waiting ticket reply := by
  obtain ⟨_, -, _, -, hrefuse⟩ | ⟨hrefuse, -⟩ := refuse_cases tickets posting
  · rw [hrefuse] at h
    cases h
  · rwa [hrefuse] at h

end Posting

/-! ### Traffic -/

/-- A reply that has come into the outbox of a session. -/
structure SentReply where
  posting : PostingNumber
  session : SessionNumber
  reply : Response

/-- A server on the network with the messages on their way, the replies in the order in which they
came into outboxes, and what has been read from streams. -/
structure Traffic where
  hub : Hub
  postings : List Posting
  sent : List SentReply
  frames : List (StreamNumber × String)

/-- What can happen next. -/
inductive TrafficAct
  | request (arrival : Arrival)
  /-- The handling of a message goes on. -/
  | proceed (number : PostingNumber)
  /-- The reader of a stream looks at it. -/
  | look (number : StreamNumber)
  /-- The reader of a stream goes away. -/
  | close (number : StreamNumber)
  /-- The sender of a message whose reply stands in line goes away. -/
  | abandon (number : PostingNumber)
  | wait (duration : Duration)
  /-- The clock shows another instant. -/
  | setClock (clock : Instant)

/-- The id that can be given to a session by an act. -/
def TrafficAct.freshId? : TrafficAct → Option String
  | request arrival => some arrival.freshId
  | _ => none

namespace Traffic

/-- A server that has just been started. -/
def start (config : Config) (clock : Instant) (zones : ZoneTable := Zone.find?) : Traffic :=
  ⟨.start config clock zones, [], [], []⟩

variable (traffic : Traffic)

/-- Notes how far a message has come. -/
def note (number : PostingNumber) (posting : Posting) (stage : Stage) : Traffic :=
  { traffic with postings := traffic.postings.set number { posting with stage } }

/-- A request comes in. A message that reaches the session of a stream is not handled yet. -/
def request (arrival : Arrival) : Traffic :=
  match traffic.hub.addressee? arrival with
  | some (number, _) =>
    { traffic with postings := traffic.postings ++ [⟨arrival, number, .found⟩] }
  | none => { traffic with hub := (traffic.hub.request arrival).1 }

/-- Handles a message. -/
def hear (number : PostingNumber) (posting : Posting) (session : Session) : Traffic :=
  let (hub, answer) := traffic.hub.hear posting.arrival.elapsed posting.session session
    posting.arrival.request.body
  { traffic with hub }.note number posting (.ofAnswer answer)

/-- Sends the reply to a message. -/
def send (number : PostingNumber) (posting : Posting) (session : Session) (reply : Response) :
    Traffic :=
  let (hub, reaction) := traffic.hub.deliver posting.session session reply
  let sent := if session.sends reply then [SentReply.mk number posting.session reply] else []
  { traffic with hub, sent := traffic.sent ++ sent }.note number posting
    (.ofReaction reply (reaction.mapResponse (Hub.complete .messages "POST")))

/-- The handling of a message goes on. -/
def proceed (number : PostingNumber) : Traffic :=
  match traffic.postings[number]? with
  | none => traffic
  | some posting =>
    match traffic.hub.sessions[posting.session]? with
    | none => traffic
    | some session =>
      match posting.stage with
      | .found => traffic.hear number posting session
      | .owing reply => traffic.send number posting session reply
      | _ => traffic

/-- A reply that stood in line with a ticket has moved in. -/
def moveIn (ticket : Ticket) : Traffic :=
  match traffic.postings.findIdx? (Posting.waitsWith ticket) with
  | none => traffic
  | some number =>
    match traffic.postings[number]? with
    | some ⟨arrival, session, .waiting _ reply⟩ =>
      { traffic with sent := traffic.sent ++ [SentReply.mk number session reply] }.note number
        ⟨arrival, session, .waiting ticket reply⟩ (.answered (some reply) Stage.taken)
    | _ => traffic

/-- The reader of a stream looks at it. -/
def look (number : StreamNumber) : Traffic :=
  let (hub, look) := traffic.hub.look number
  let traffic := { traffic with
    hub, frames := traffic.frames ++ look.glance.frames.map fun frame => (number, frame) }
  match look.movedIn with
  | none => traffic
  | some ticket => traffic.moveIn ticket

/-- The reader of a stream goes away. -/
def close (number : StreamNumber) : Traffic :=
  let (hub, refused) := traffic.hub.closeStream number
  { traffic with hub, postings := traffic.postings.map (Posting.refuse refused) }

/-- The sender of a message whose reply stands in line goes away. -/
def abandon (number : PostingNumber) : Traffic :=
  match traffic.postings[number]? with
  | some ⟨arrival, session, .waiting ticket reply⟩ =>
    { traffic with hub := traffic.hub.abandon ticket }.note number
      ⟨arrival, session, .waiting ticket reply⟩ (.abandoned reply)
  | _ => traffic

/-- Lets something happen. -/
def step : TrafficAct → Traffic
  | .request arrival => traffic.request arrival
  | .proceed number => traffic.proceed number
  | .look number => traffic.look number
  | .close number => traffic.close number
  | .abandon number => traffic.abandon number
  | .wait duration => { traffic with hub := traffic.hub.advance duration }
  | .setClock clock => { traffic with hub := { traffic.hub with clock } }

/-- Lets some things happen one after another. -/
def after (acts : List TrafficAct) : Traffic :=
  acts.foldl step traffic

lemma after_concat (acts : List TrafficAct) (act : TrafficAct) :
    traffic.after (acts ++ [act]) = (traffic.after acts).step act :=
  List.foldl_append

/-! ### Requests as a whole -/

variable {traffic} {arrival : Arrival} {session : Session} {number : SessionNumber}

lemma request_of_addressee (h : traffic.hub.addressee? arrival = some (number, session)) :
    traffic.request arrival =
      { traffic with postings := traffic.postings ++ [⟨arrival, number, .found⟩] } := by
  simp only [request, h]

lemma proceed_of_found {posting : PostingNumber}
    (h : traffic.postings[posting]? = some ⟨arrival, number, .found⟩)
    (hget : traffic.hub.sessions[number]? = some session) :
    traffic.proceed posting = traffic.hear posting ⟨arrival, number, .found⟩ session := by
  simp only [proceed, h, hget]

lemma proceed_of_owing {posting : PostingNumber} {reply : Response}
    (h : traffic.postings[posting]? = some ⟨arrival, number, .owing reply⟩)
    (hget : traffic.hub.sessions[number]? = some session) :
    traffic.proceed posting =
      traffic.send posting ⟨arrival, number, .owing reply⟩ session reply := by
  simp only [proceed, h, hget]

/-- A message goes on only until it is answered or has to wait. -/
lemma proceed_of_reaction {posting : PostingNumber} {stage : Stage} {reaction : Reaction}
    (h : traffic.postings[posting]? = some ⟨arrival, number, stage⟩)
    (hreaction : stage.reaction? = some reaction) : traffic.proceed posting = traffic := by
  simp only [proceed, h]
  cases traffic.hub.sessions[number]? with
  | none => rfl
  | some session => cases stage <;> first | rfl | cases hreaction

/-- The steps of a message, taken without a pause, are what a request does as a whole. -/
theorem request_proceed_proceed
    (h : traffic.hub.addressee? arrival = some (number, session)) :
    let posting := traffic.postings.length
    let traffic' := ((traffic.request arrival).proceed posting).proceed posting
    traffic'.hub = (traffic.hub.request arrival).1 ∧
      ∃ stage, traffic'.postings = traffic.postings ++ [⟨arrival, number, stage⟩] ∧
        stage.reaction? = some (traffic.hub.request arrival).2 := by
  obtain ⟨-, hget, -⟩ := Hub.postsForStream_of_addressee h
  have hset (posting posting' : Posting) : (traffic.postings ++ [posting]).set
      traffic.postings.length posting' = traffic.postings ++ [posting'] := by simp
  have hlast (postings : List Posting) (posting : Posting) :
      (postings ++ [posting])[postings.length]? = some posting := by simp
  have hfound := @proceed_of_found
    { traffic with postings := traffic.postings ++ [⟨arrival, number, .found⟩] } _ _ _ _
    (hlast _ _) hget
  have hheard := Hub.hear_eq traffic.hub arrival.elapsed hget arrival.request.body
  dsimp only
  rw [request_of_addressee h, Hub.request_of_addressee h, hfound]
  unfold hear Hub.hearForStream
  dsimp only
  generalize traffic.hub.hear arrival.elapsed number session arrival.request.body = outcome
    at hheard
  obtain ⟨heard, answer⟩ := outcome
  dsimp only [note] at hheard ⊢
  rw [hset]
  cases answer with
  | silence =>
    rw [proceed_of_reaction (hlast _ _) rfl]
    exact ⟨rfl, _, rfl, rfl⟩
  | stopped cause =>
    rw [proceed_of_reaction (hlast _ _) rfl]
    exact ⟨rfl, _, rfl, rfl⟩
  | reply reply =>
    obtain ⟨session', hget'⟩ : ∃ session', heard.sessions[number]? = some session' := by
      rw [hheard]
      exact ⟨_, List.getElem?_set_self (List.getElem?_eq_some_iff.1 hget).1⟩
    have howing := @proceed_of_owing
      { traffic with
        hub := heard, postings := traffic.postings ++ [⟨arrival, number, .owing reply⟩] }
      _ _ _ _ _ (hlast _ _) hget'
    simp only [Stage.ofAnswer, howing, hget']
    unfold send
    dsimp only [note]
    rw [hset]
    refine ⟨rfl, _, rfl, ?_⟩
    unfold Hub.deliver
    cases session'.send reply <;> rfl

end Traffic

end WorldClock
