import WorldClock.Proofs.Hub.Course
import WorldClock.Proofs.Mcp.Answers
import WorldClock.Proofs.Session.Outbox
/-!
# Clients of streams

A client opens a stream, posts messages for it, and reads it now and then. What it reads, apart from
signs of life, are the announcement of the stream and then the replies to its messages in their
order, however its posts and its looks at the stream alternate.
-/

namespace WorldClock

/-! ### Events -/

/-- The event that shows a reply. -/
def replyEvent (reply : Response) : String :=
  eventText "message" reply.text

lemma eventText_ne_signOfLife (name data : String) : eventText name data ≠ signOfLife := by
  intro h
  have hhead : ("event: " ++ name ++ "\ndata: " ++ dataLines data ++ "\n\n").toList.head? =
      ":\n\n".toList.head? := congrArg (fun text => text.toList.head?) h
  simp at hhead

/-- The events in what is read from a stream. A sign of life is none. -/
def eventsIn (frames : List String) : List String :=
  frames.filter (· ≠ signOfLife)

@[simp] lemma eventsIn_append (frames more : List String) :
    eventsIn (frames ++ more) = eventsIn frames ++ eventsIn more :=
  List.filter_append _ _

@[simp] lemma eventsIn_eventText (name data : String) :
    eventsIn [eventText name data] = [eventText name data] := by
  simp [eventsIn, eventText_ne_signOfLife]

@[simp] lemma eventsIn_signOfLife : eventsIn [signOfLife] = [] := by
  simp [eventsIn]

/-- What is read when a look at a stream shows something. -/
def Glance.frames : Glance → List String
  | .frame text => [text]
  | .nothing | .ended => []

namespace Hub

/-! ### Streams and what there is to read on them -/

/-- A stream that is open, with its session, to which an id leads. -/
structure Carries (hub : Hub) (number : StreamNumber) (id : String) (stream : EventStream)
    (session : Session) (outbox : Outbox) : Prop where
  stream_eq : hub.streams[number]? = some stream
  isOpen : stream.isOpen = true
  session_eq : hub.sessions[stream.session]? = some session
  found : hub.sessions.find? id .sse = some stream.session
  surface_eq : session.surface = .sse outbox
  orderly : outbox.Orderly

/-- The events that are still to be read on a stream. -/
def unread (hub : Hub) (id : String) (stream : EventStream) (outbox : Outbox) : List String :=
  (if stream.announced then [] else [eventText "endpoint" (hub.endpoint id)]) ++
    outbox.pending.map replyEvent

/-- On an open stream some events are still to be read. Of its session counts only whether the
client has greeted. -/
inductive Awaits (hub : Hub) (number : StreamNumber) (id : String) (greeted : Bool)
    (events : List String) : Prop
  | intro {stream : EventStream} {session : Session} {outbox : Outbox}
      (hcarries : hub.Carries number id stream session outbox)
      (hgreeted : session.greeted = greeted)
      (hunread : hub.unread id stream outbox = events)

namespace Carries

variable {hub hub' : Hub} {number : StreamNumber} {id : String} {stream stream' : EventStream}
  {session session' : Session} {outbox outbox' : Outbox}

lemma stream?_eq (h : hub.Carries number id stream session outbox) :
    hub.stream? number = some (stream, session) := by
  simp [stream?, h.stream_eq, h.isOpen, h.session_eq]

lemma answersTo (h : hub.Carries number id stream session outbox) :
    session.badge.answersTo id .sse = true := by
  obtain ⟨found, hget, hanswers⟩ := Sessions.exists_of_find h.found
  rw [h.session_eq, Option.some.injEq] at hget
  exact hget ▸ hanswers

lemma kind_eq (h : hub.Carries number id stream session outbox) : session.kind = .sse :=
  (Badge.answersTo_iff.1 h.answersTo).2.2

/-- A stream is carried on if its session changes in a way that the registry does not see. -/
lemma change (h : hub.Carries number id stream session outbox)
    (hstream : hub'.streams[number]? = some stream') (hopen : stream'.isOpen = true)
    (hnumber : stream'.session = stream.session)
    (hsessions : hub'.sessions = hub.sessions.set stream.session session')
    (hbadge : session'.badge = session.badge) (hsurface : session'.surface = .sse outbox')
    (horderly : outbox'.Orderly) : hub'.Carries number id stream' session' outbox' where
  stream_eq := hstream
  isOpen := hopen
  session_eq := by
    rw [hsessions, hnumber]
    exact List.getElem?_set_self (List.getElem?_eq_some_iff.1 h.session_eq).1
  found := by
    rw [hsessions, hnumber]
    exact Sessions.find_set h.found (hbadge ▸ h.answersTo)
  surface_eq := hsurface
  orderly := horderly

/-! ### Posting -/

/-- A reply is the last to be read when it is sent. -/
lemma deliver (h : hub.Carries number id stream session outbox) (reply : Response) :
    hub.Serves (hub.deliver stream.session session reply).1 hub.server ∧
      (hub.deliver stream.session session reply).1.Awaits number id session.greeted
        (hub.unread id stream outbox ++ [replyEvent reply]) := by
  have hunread {outbox' : Outbox} (hpending : outbox'.pending = outbox.pending ++ [reply]) :
      hub.unread id stream outbox' = hub.unread id stream outbox ++ [replyEvent reply] := by
    simp [unread, hpending]
  have hstopped : (!outbox.isRead) = false := by rw [h.orderly.isRead, Bool.not_true]
  unfold Hub.deliver Session.send
  rw [h.surface_eq]
  dsimp only
  rw [hstopped, if_neg Bool.false_ne_true]
  by_cases hroom : outbox.hasRoom = true
  · obtain ⟨horderly, hpending⟩ := h.orderly.push hroom reply
    rw [if_pos hroom]
    exact ⟨⟨rfl, rfl, rfl⟩, .intro (h.change h.stream_eq h.isOpen rfl rfl
      (badge_withOutbox h.kind_eq _) rfl horderly) rfl (hunread hpending)⟩
  · obtain ⟨horderly, hpending⟩ :=
      h.orderly.lineUp (Bool.eq_false_iff.2 hroom) hub.nextTicket reply
    rw [if_neg hroom]
    exact ⟨⟨rfl, rfl, rfl⟩, .intro (h.change h.stream_eq h.isOpen rfl rfl
      (badge_withOutbox h.kind_eq _) rfl horderly) rfl (hunread hpending)⟩

lemma hearForStream (h : hub.Carries number id stream session outbox) (elapsed : Duration)
    (message : Bytes) :
    let turn := hub.server.handle ⟨hub.clock, elapsed⟩ session.greeted message
    hub.Serves (hub.hearForStream elapsed stream.session session message).1 turn.server ∧
      (hub.hearForStream elapsed stream.session session message).1.Awaits number id turn.greeted
        (hub.unread id stream outbox ++ turn.answer.reply?.toList.map replyEvent) := by
  intro turn
  have heq := hear_eq hub elapsed h.session_eq message
  have hanswer : (hub.hear elapsed stream.session session message).2 = turn.answer := rfl
  unfold Hub.hearForStream
  generalize hub.hear elapsed stream.session session message = outcome at heq hanswer
  obtain ⟨heard, answer⟩ := outcome
  dsimp only at heq hanswer
  have hstreams : heard.streams = hub.streams := heq ▸ rfl
  have hsessions : heard.sessions = hub.sessions.set stream.session
      { session with greeted := turn.greeted } := heq ▸ rfl
  have hserves : hub.Serves heard turn.server := heq ▸ ⟨rfl, rfl, rfl⟩
  have hcarries : heard.Carries number id stream { session with greeted := turn.greeted } outbox :=
    h.change (hstreams ▸ h.stream_eq) h.isOpen rfl hsessions rfl h.surface_eq h.orderly
  have hunread : hub.unread id stream outbox = heard.unread id stream outbox := by
    simp only [unread, endpoint, hserves.config]
  rw [hunread, ← hanswer]
  cases answer with
  | silence | stopped =>
    rw [Answer.reply?, Option.toList_none, List.map_nil, List.append_nil]
    exact ⟨hserves, .intro hcarries rfl rfl⟩
  | reply reply =>
    obtain ⟨hdelivered, hawaits⟩ := hcarries.deliver reply
    simp only [hcarries.session_eq]
    exact ⟨⟨hdelivered.config.trans hserves.config, hdelivered.clock.trans hserves.clock,
      hdelivered.server.trans hserves.server⟩, hawaits⟩

lemma streamSession?_eq (h : hub.Carries number id stream session outbox) {bytes : Bytes}
    (htext : bytes.text? = some id) :
    hub.streamSession? bytes = some (stream.session, session) := by
  simp [streamSession?, htext, h.found, h.session_eq]

/-- A message that is posted for a stream is handled on the session of the stream. -/
lemma request (h : hub.Carries number id stream session outbox)
    (hserved : hub.config.transport.servesStreams = true) {arrival : Arrival}
    (hposts : arrival.PostsForStream hub.config id) :
    let turn := hub.server.handle ⟨hub.clock, arrival.elapsed⟩ session.greeted
      arrival.request.body
    hub.Serves (hub.request arrival).1 turn.server ∧
      (hub.request arrival).1.Awaits number id turn.greeted
        (hub.unread id stream outbox ++ turn.answer.reply?.toList.map replyEvent) := by
  obtain ⟨bytes, hquery, htext⟩ := hposts.names
  have hasks : arrival.Asks hub.config "POST" Route.messages.path := hposts.asks
  rw [request_of_asks hasks (by decide) hserved]
  simp only [serve, postForStream, hquery, hposts.fits, Bool.false_eq_true, if_false,
    h.streamSession?_eq htext]
  exact h.hearForStream _ _

/-! ### Looking -/

lemma id_eq (h : hub.Carries number id stream session outbox) : session.id = id :=
  (Badge.answersTo_iff.1 h.answersTo).2.1

lemma receive_of_nil (h : hub.Carries number id stream session outbox)
    (hpending : outbox.pending = []) : session.receive = .empty := by
  have hregistered : session.registered = true := (Badge.answersTo_iff.1 h.answersTo).1
  simp [Session.receive, Session.outbox?, h.surface_eq, h.orderly.isRead,
    Outbox.next?_eq_none hpending, Session.canSend, hregistered]

lemma receive_of_cons (h : hub.Carries number id stream session outbox) {reply : Response}
    {rest : List Response} (hpending : outbox.pending = reply :: rest) :
    ∃ outbox' movedIn, session.receive = .received reply (session.withOutbox outbox') movedIn ∧
      outbox'.Orderly ∧ outbox'.pending = rest := by
  obtain ⟨outbox', movedIn, hnext, horderly, hrest⟩ := h.orderly.next?_eq_some hpending
  refine ⟨outbox', movedIn, ?_, horderly, hrest⟩
  simp [Session.receive, Session.outbox?, h.surface_eq, h.orderly.isRead, hnext]

/-- A stream on which something has been read. -/
lemma noteFrame (h : hub.Carries number id stream session outbox) :
    (hub.noteFrame number).Carries number id
      { stream with announced := true, lastFrame := hub.time } session outbox where
  stream_eq := by simp [Hub.noteFrame, h.stream_eq]
  isOpen := h.isOpen
  session_eq := h.session_eq
  found := h.found
  surface_eq := h.surface_eq
  orderly := h.orderly

lemma look_of_not_announced (h : hub.Carries number id stream session outbox)
    (hannounced : stream.announced = false) :
    hub.look number =
      (hub.noteFrame number, ⟨.frame (eventText "endpoint" (hub.endpoint id)), none⟩) := by
  simp only [Hub.look, h.stream?_eq, lookAt, hannounced, Bool.not_false, if_true, h.id_eq]

lemma look_of_nil (h : hub.Carries number id stream session outbox)
    (hannounced : stream.announced = true) (hpending : outbox.pending = []) :
    hub.look number =
      if silenceLimit ≤ hub.time - stream.lastFrame then
        (hub.noteFrame number, ⟨.frame signOfLife, none⟩)
      else (hub, ⟨.nothing, none⟩) := by
  simp only [Hub.look, h.stream?_eq, lookAt, hannounced, Bool.not_true, Bool.false_eq_true,
    if_false, h.receive_of_nil hpending]

lemma look_of_cons (h : hub.Carries number id stream session outbox)
    (hannounced : stream.announced = true) {reply : Response} {rest : List Response}
    (hpending : outbox.pending = reply :: rest) :
    ∃ read outbox' movedIn, hub.look number =
        (Hub.noteFrame read number, ⟨.frame (replyEvent reply), movedIn⟩) ∧
      hub.Serves read hub.server ∧
      read.Carries number id stream (session.withOutbox outbox') outbox' ∧
      outbox'.pending = rest := by
  obtain ⟨outbox', movedIn, hreceive, horderly, hrest⟩ := h.receive_of_cons hpending
  refine ⟨{ hub with sessions := hub.sessions.set stream.session (session.withOutbox outbox') },
    outbox', movedIn, ?_, ⟨rfl, rfl, rfl⟩, ?_, hrest⟩
  · simp only [Hub.look, h.stream?_eq, lookAt, hannounced, Bool.not_true, Bool.false_eq_true,
      if_false, hreceive, replyEvent]
  · exact h.change h.stream_eq h.isOpen rfl rfl (badge_withOutbox h.kind_eq _) rfl horderly

/-- The first event of a stream is read first, and then the replies in their order. -/
lemma look (h : hub.Carries number id stream session outbox) :
    hub.Serves (hub.look number).1 hub.server ∧
      eventsIn (hub.look number).2.glance.frames = (hub.unread id stream outbox).head?.toList ∧
      (hub.look number).1.Awaits number id session.greeted (hub.unread id stream outbox).tail := by
  cases hannounced : stream.announced with
  | false =>
    have hunread : hub.unread id stream outbox =
        eventText "endpoint" (hub.endpoint id) :: outbox.pending.map replyEvent := by
      simp [unread, hannounced]
    rw [h.look_of_not_announced hannounced, hunread]
    exact ⟨⟨rfl, rfl, rfl⟩, eventsIn_eventText _ _,
      .intro h.noteFrame rfl (by simp [unread])⟩
  | true =>
    cases hpending : outbox.pending with
    | nil =>
      have hunread : hub.unread id stream outbox = [] := by simp [unread, hannounced, hpending]
      rw [h.look_of_nil hannounced hpending, hunread]
      split_ifs
      · exact ⟨⟨rfl, rfl, rfl⟩, eventsIn_signOfLife,
          .intro h.noteFrame rfl (by simp [unread, hpending])⟩
      · exact ⟨⟨rfl, rfl, rfl⟩, rfl, .intro h rfl hunread⟩
    | cons reply rest =>
      have hunread : hub.unread id stream outbox = replyEvent reply :: rest.map replyEvent := by
        simp [unread, hannounced, hpending]
      obtain ⟨read, outbox', movedIn, hlook, hserves, hcarries, hrest⟩ :=
        h.look_of_cons hannounced hpending
      rw [hlook, hunread]
      exact ⟨⟨hserves.config, hserves.clock, hserves.server⟩, eventsIn_eventText _ _,
        .intro hcarries.noteFrame rfl (by simp [unread, hrest])⟩

/-! ### Waiting -/

lemma sweep (h : hub.Carries number id stream session outbox) (now : Duration) :
    (hub.sweep now).Carries number id stream session outbox where
  stream_eq := h.stream_eq
  isOpen := h.isOpen
  session_eq := Sessions.spares_evictIdle (by decide) _ _ _ _ _ h.session_eq h.kind_eq
  found := by
    refine Sessions.find_badges_map (Badge.isTame_expire _ _ _) (Sessions.badges_evictIdle ..)
      h.found h.session_eq ?_
    have hkind : session.badge.kind ≠ .http := fun heq => by
      cases h.kind_eq.symm.trans heq
    rw [Badge.expire_of_kind_ne hkind]
    exact (Badge.answersTo_iff.1 h.answersTo).1
  surface_eq := h.surface_eq
  orderly := h.orderly

lemma withTime (h : hub.Carries number id stream session outbox) (time : Duration) :
    { hub with time }.Carries number id stream session outbox :=
  ⟨h.stream_eq, h.isOpen, h.session_eq, h.found, h.surface_eq, h.orderly⟩

/-- Sessions of streams are not ended for being idle. -/
lemma advance (h : hub.Carries number id stream session outbox) (duration : Duration) :
    hub.Serves (hub.advance duration) hub.server ∧
      (hub.advance duration).Carries number id stream session outbox := by
  unfold Hub.advance
  dsimp only
  split_ifs
  · exact ⟨⟨rfl, rfl, rfl⟩, (h.sweep _).withTime _⟩
  · exact ⟨⟨rfl, rfl, rfl⟩, h.withTime _⟩

end Carries

/-! ### Opening -/

/-- A stream that has just been opened awaits its first event. -/
lemma awaits_openStream (hub : Hub) {id : String} (hfresh : id ∉ hub.sessions.ids) :
    hub.Serves (hub.openStream id).1 hub.server ∧
      (hub.openStream id).1.Awaits hub.streams.length id false
        [eventText "endpoint" (hub.endpoint id)] := by
  have hanswers : (hub.newSession id (.sse (.ofCapacity outboxCapacity)) false).badge.answersTo id
      .sse = true := by
    simp [newSession, Session.opened, Session.badge, Session.kind, Surface.kind]
  rw [openStream_eq hub hfresh]
  have hcarries : Carries
      { hub with
        sessions := hub.sessions ++ [hub.newSession id (.sse (.ofCapacity outboxCapacity)) false]
        streams := hub.streams ++ [⟨hub.sessions.length, false, hub.time, true⟩] }
      hub.streams.length id ⟨hub.sessions.length, false, hub.time, true⟩
      (hub.newSession id (.sse (.ofCapacity outboxCapacity)) false)
      (.ofCapacity outboxCapacity) :=
    ⟨by simp, rfl, by simp, Sessions.find_append hfresh hanswers, rfl,
      Outbox.orderly_ofCapacity (by decide)⟩
  exact ⟨⟨rfl, rfl, rfl⟩, .intro hcarries rfl rfl⟩

namespace Awaits

variable {hub : Hub} {number : StreamNumber} {id : String} {greeted : Bool}
  {events : List String}

/-- A message that is posted for a stream is handled on the session of the stream. -/
lemma request (h : hub.Awaits number id greeted events)
    (hserved : hub.config.transport.servesStreams = true) {arrival : Arrival}
    (hposts : arrival.PostsForStream hub.config id) :
    let turn := hub.server.handle ⟨hub.clock, arrival.elapsed⟩ greeted arrival.request.body
    hub.Serves (hub.request arrival).1 turn.server ∧
      (hub.request arrival).1.Awaits number id turn.greeted
        (events ++ turn.answer.reply?.toList.map replyEvent) := by
  obtain ⟨hcarries, rfl, rfl⟩ := h
  exact hcarries.request hserved hposts

lemma look (h : hub.Awaits number id greeted events) :
    hub.Serves (hub.look number).1 hub.server ∧
      eventsIn (hub.look number).2.glance.frames = events.head?.toList ∧
      (hub.look number).1.Awaits number id greeted events.tail := by
  obtain ⟨hcarries, rfl, rfl⟩ := h
  exact hcarries.look

lemma advance (h : hub.Awaits number id greeted events) (duration : Duration) :
    hub.Serves (hub.advance duration) hub.server ∧
      (hub.advance duration).Awaits number id greeted events := by
  obtain ⟨hcarries, rfl, rfl⟩ := h
  obtain ⟨hserves, hcarries'⟩ := hcarries.advance duration
  refine ⟨hserves, .intro hcarries' rfl ?_⟩
  simp only [unread, endpoint, hserves.config]

end Awaits

/-! ### Reading to the end -/

lemma head?_append_tail {α : Type} (as : List α) : as.head?.toList ++ as.tail = as := by
  cases as <;> rfl

lemma readUpTo_succ (limit : Nat) (hub : Hub) (number : StreamNumber) :
    (readUpTo (limit + 1) hub number).2.frames =
      match (hub.look number).2.glance with
      | .frame text => text :: (readUpTo limit (hub.look number).1 number).2.frames
      | .nothing | .ended => [] := by
  rw [readUpTo]
  rcases hub.look number with ⟨hub', _ | _ | _, _⟩ <;> rfl

lemma eventsIn_readUpTo {hub : Hub} {number : StreamNumber} {id : String} {greeted : Bool}
    {events : List String} (h : hub.Awaits number id greeted events) {limit : Nat}
    (hlimit : events.length ≤ limit) :
    eventsIn (readUpTo limit hub number).2.frames = events := by
  induction limit generalizing hub events with
  | zero =>
    rw [List.length_eq_zero_iff.1 (Nat.le_zero.1 hlimit)]
    rfl
  | succ limit ih =>
    obtain ⟨-, hlook, hrest⟩ := h.look
    have hmore := ih hrest (by rw [List.length_tail]; omega)
    rw [readUpTo_succ]
    cases hglance : (hub.look number).2.glance with
    | frame text =>
      rw [hglance] at hlook
      change eventsIn ([text] ++ (readUpTo limit (hub.look number).1 number).2.frames) = events
      rw [eventsIn_append, hmore]
      exact (congrArg (· ++ events.tail) hlook).trans (head?_append_tail events)
    | nothing | ended =>
      rw [hglance] at hlook
      cases events with
      | nil => rfl
      | cons event events => cases hlook

lemma length_unread_le_looksNeeded {hub : Hub} {number : StreamNumber} {id : String}
    {stream : EventStream} {session : Session} {outbox : Outbox}
    (h : hub.Carries number id stream session outbox) :
    (hub.unread id stream outbox).length ≤ hub.looksNeeded number := by
  simp only [looksNeeded, h.stream?_eq, Option.bind_some, Session.outbox?, h.surface_eq, unread,
    Outbox.pending, List.length_append, List.length_map]
  split_ifs <;> simp only [List.length_nil, List.length_singleton] <;> omega

/-- All that there is to read is read in the end. -/
lemma eventsIn_read {hub : Hub} {number : StreamNumber} {id : String} {greeted : Bool}
    {events : List String} (h : hub.Awaits number id greeted events) :
    eventsIn (hub.read number).2.frames = events := by
  refine eventsIn_readUpTo h ?_
  obtain ⟨hcarries, rfl, rfl⟩ := h
  exact length_unread_le_looksNeeded hcarries

end Hub

/-! ### Clients -/

/-- What the client of a stream does. -/
inductive StreamAct
  | post (arrival : Arrival)
  | look
  | wait (duration : Duration)

/-- The message that is sent by an act, if one is. -/
def StreamAct.sent? : StreamAct → Option Sent
  | post arrival => some ⟨arrival.request.body, arrival.elapsed⟩
  | look | wait _ => none

namespace Hub

/-- What comes of an act: the hub after it, and what is read by it. -/
def act (hub : Hub) (number : StreamNumber) : StreamAct → Hub × List String
  | .post arrival => ((hub.request arrival).1, [])
  | .look => ((hub.look number).1, (hub.look number).2.glance.frames)
  | .wait duration => (hub.advance duration, [])

/-- What comes of some acts. -/
def actAll (hub : Hub) (number : StreamNumber) : List StreamAct → Hub × List String
  | [] => (hub, [])
  | act :: acts =>
    let (hub', frames) := hub.act number act
    let (hub'', more) := hub'.actAll number acts
    (hub'', frames ++ more)

/-- What is read in the course of some acts, and what is to be read after them, are what was to be
read before and the replies to the messages. -/
lemma Awaits.actAll {hub : Hub} {number : StreamNumber} {id : String} {greeted : Bool}
    {events : List String} (h : hub.Awaits number id greeted events)
    (hserved : hub.config.transport.servesStreams = true) {acts : List StreamAct}
    (hposts : ∀ arrival, .post arrival ∈ acts → arrival.PostsForStream hub.config id) :
    ∃ greeted' rest, (hub.actAll number acts).1.Awaits number id greeted' rest ∧
      eventsIn (hub.actAll number acts).2 ++ rest =
        events ++ (repliesIn (hub.server.answers greeted hub.clock
          (acts.filterMap StreamAct.sent?))).map replyEvent := by
  induction acts generalizing hub greeted events with
  | nil => exact ⟨greeted, events, h, by simp [Hub.actAll, eventsIn, Server.answers, repliesIn]⟩
  | cons act acts ih =>
    have hlater (arrival : Arrival) (hmem : .post arrival ∈ acts) :
        arrival.PostsForStream hub.config id := hposts arrival (List.mem_cons_of_mem _ hmem)
    cases act with
    | post arrival =>
      obtain ⟨hserves, hawaits⟩ := h.request hserved (hposts arrival List.mem_cons_self)
      rw [← hserves.config] at hserved hlater
      obtain ⟨greeted', rest, hrest, heq⟩ := ih hawaits hserved hlater
      refine ⟨greeted', rest, hrest, ?_⟩
      simp only [Hub.actAll, Hub.act, List.nil_append, heq, hserves.server, hserves.clock,
        List.filterMap_cons, StreamAct.sent?, Server.answers, repliesIn_cons, List.map_append,
        List.append_assoc]
    | look =>
      obtain ⟨hserves, hlook, hawaits⟩ := h.look
      rw [← hserves.config] at hserved hlater
      obtain ⟨greeted', rest, hrest, heq⟩ := ih hawaits hserved hlater
      refine ⟨greeted', rest, hrest, ?_⟩
      simp only [Hub.actAll, Hub.act, eventsIn_append, hlook, List.append_assoc, heq,
        hserves.server, hserves.clock, List.filterMap_cons, StreamAct.sent?]
      rw [← List.append_assoc, head?_append_tail]
    | wait duration =>
      obtain ⟨hserves, hawaits⟩ := h.advance duration
      rw [← hserves.config] at hserved hlater
      obtain ⟨greeted', rest, hrest, heq⟩ := ih hawaits hserved hlater
      refine ⟨greeted', rest, hrest, ?_⟩
      simp only [Hub.actAll, Hub.act, List.nil_append, heq, hserves.server, hserves.clock,
        List.filterMap_cons, StreamAct.sent?]

end Hub

/-- A client that opens a stream and posts messages for it. -/
structure StreamClient (config : Config) (messages : List Bytes) where
  connect : Arrival
  acts : List StreamAct
  asks : connect.Asks config "GET" "/sse"
  posts : ∀ arrival, .post arrival ∈ acts → arrival.PostsForStream config connect.freshId
  messages_eq : (acts.filterMap StreamAct.sent?).map Sent.message = messages

namespace StreamClient

variable {config : Config} {messages : List Bytes} (client : StreamClient config messages)

/-- The messages that the client sends. -/
def sent : List Sent :=
  client.acts.filterMap StreamAct.sent?

lemma map_message_sent : client.sent.map Sent.message = messages :=
  client.messages_eq

/-- What the client reads if it reads all that is left in the end. -/
def frames (hub : Hub) : List String :=
  match hub.request client.connect with
  | (hub, .stream _ number) =>
    (hub.actAll number client.acts).2 ++
      ((hub.actAll number client.acts).1.read number).2.frames
  | _ => []

/-- Exactly if there is a carriage return in the address that is to be announced, no stream is
opened for the client. -/
lemma request_connect {hub : Hub} (hconfig : hub.config = config)
    (hserved : config.transport.servesStreams = true) :
    ('\r' ∉ (endpointUrl config.publicUrl client.connect.freshId).toList ∧
        ∃ response, hub.request client.connect =
          ((hub.openStream client.connect.freshId).1, .stream response hub.streams.length)) ∨
      '\r' ∈ (endpointUrl config.publicUrl client.connect.freshId).toList ∧
        ∃ cause, (hub.request client.connect).2 = .stopped cause := by
  subst hconfig
  have hasks : client.connect.Asks hub.config "GET" Route.events.path := client.asks
  have hget : client.connect.request.method ≠ "HEAD" := by
    rw [hasks.method_eq]
    decide
  have hfault := Hub.isSome_carriageReturn_iff 0 (hub.endpoint client.connect.freshId).toList
  rw [Hub.request_of_asks hasks (by decide) hserved]
  simp only [Hub.serve, Hub.announcementFault?]
  cases hposition : carriageReturn? 0 (hub.endpoint client.connect.freshId).toList with
  | some position =>
    rw [hposition] at hfault
    exact .inr ⟨hfault.1 rfl, .carriageReturn position, rfl⟩
  | none =>
    rw [hposition] at hfault
    simp only [Option.map_none, if_neg hget]
    exact .inl ⟨fun h => Bool.false_ne_true (hfault.2 h), _, rfl⟩

/-- The events that the client reads are the announcement of the stream and the replies to its
messages, unless there is no way to write the announcement. -/
theorem eventsIn_frames_eq_iff {hub : Hub} (hconfig : hub.config = config)
    (hserved : config.transport.servesStreams = true)
    (hfresh : client.connect.freshId ∉ hub.sessions.ids) :
    eventsIn (client.frames hub) =
        eventText "endpoint" (endpointUrl config.publicUrl client.connect.freshId) ::
          (repliesIn (hub.server.answers false hub.clock client.sent)).map replyEvent ↔
      '\r' ∉ (endpointUrl config.publicUrl client.connect.freshId).toList := by
  obtain ⟨hcr, response, hrequest⟩ | ⟨hcr, cause, hstopped⟩ :=
    client.request_connect hconfig hserved
  · refine iff_of_true ?_ hcr
    subst hconfig
    obtain ⟨hserves, hawaits⟩ := hub.awaits_openStream hfresh
    have hposts : ∀ arrival, .post arrival ∈ client.acts →
        arrival.PostsForStream (hub.openStream client.connect.freshId).1.config
          client.connect.freshId := by
      rw [hserves.config]
      exact client.posts
    rw [← hserves.config] at hserved
    obtain ⟨greeted, rest, hrest, heq⟩ := hawaits.actAll hserved hposts
    simp only [frames, hrequest, eventsIn_append, Hub.eventsIn_read hrest, heq, hserves.server,
      hserves.clock]
    rfl
  · refine iff_of_false (fun h => ?_) (not_not_intro hcr)
    have hframes : client.frames hub = [] := by
      rw [frames, ← Prod.eta (hub.request client.connect), hstopped]
    rw [hframes] at h
    cases h

end StreamClient

end WorldClock
