import WorldClock.Proofs.Hub.Bearer
import WorldClock.Proofs.Hub.StreamClient
/-!
# What replies see of a hub

To the delivery of replies a session is an id and a surface, and of the hub it sees no more than
these, the streams, and the next ticket (`Hub.scene`). For each operation there is one lemma that
tells what it does to the scene. Most of what the registry and the clients that are answered at once
do cannot be seen at all.
-/

namespace WorldClock

/-- What replies see of a session. -/
structure Port where
  id : String
  surface : Surface

/-- What replies see of a session. -/
def Session.port (session : Session) : Port :=
  ⟨session.id, session.surface⟩

/-- What replies see of all sessions. -/
def Sessions.ports (sessions : Sessions) : List Port :=
  sessions.map Session.port

/-- What replies see of a hub. -/
structure Scene where
  config : Config
  ports : List Port
  streams : List EventStream
  nextTicket : Ticket

/-- What replies see of a hub. -/
def Hub.scene (hub : Hub) : Scene :=
  ⟨hub.config, hub.sessions.ports, hub.streams, hub.nextTicket⟩

namespace Scene

/-- Puts another outbox into a session. -/
def setOutbox (scene : Scene) (number : SessionNumber) (outbox : Outbox) : Scene :=
  { scene with
    ports := scene.ports.modify number fun port => { port with surface := .sse outbox } }

/-- Notes that something was read on a stream. -/
def noteFrame (scene : Scene) (number : StreamNumber) (time : Duration) : Scene :=
  { scene with
    streams := scene.streams.modify number fun stream =>
      { stream with announced := true, lastFrame := time } }

/-- The reply that stands in line with a ticket is no longer waited for. -/
def abandon (scene : Scene) (ticket : Ticket) : Scene :=
  { scene with
    ports := scene.ports.map fun port =>
      match port.surface with
      | .sse outbox => { port with surface := .sse (outbox.abandon ticket) }
      | .stdio | .http => port }

/-- The reader of a stream goes away. -/
def closeStream (scene : Scene) (number : StreamNumber) : Scene :=
  { scene with
    streams := scene.streams.modify number fun stream => { stream with isOpen := false } }

end Scene

/-! ### Sessions -/

namespace Sessions

variable {sessions : Sessions}

lemma getElem?_ports {number : SessionNumber} {session : Session}
    (h : sessions[number]? = some session) : sessions.ports[number]? = some session.port := by
  rw [ports, List.getElem?_map, h, Option.map_some]

lemma exists_of_getElem?_ports {number : SessionNumber} {port : Port}
    (h : sessions.ports[number]? = some port) :
    ∃ session, sessions[number]? = some session ∧ session.port = port := by
  rwa [ports, List.getElem?_map, Option.map_eq_some_iff] at h

lemma ports_map {f : Session → Session} (h : ∀ session, (f session).port = session.port) :
    ports (sessions.map f) = sessions.ports := by
  rw [ports, List.map_map]
  exact List.map_congr_left fun session _ => h session

lemma ports_modify {f : Session → Session} (number : SessionNumber)
    (h : ∀ session, (f session).port = session.port) :
    ports (sessions.modify number f) = sessions.ports := by
  refine List.ext_getElem? fun k => ?_
  simp only [ports, List.getElem?_map, List.getElem?_modify]
  cases sessions[k]? with
  | none => rfl
  | some session => split_ifs <;> simp [h]

lemma ports_modify_withOutbox (number : SessionNumber) (outbox : Outbox) :
    ports (sessions.modify number fun session => session.withOutbox outbox) =
      sessions.ports.modify number fun port => { port with surface := .sse outbox } := by
  refine List.ext_getElem? fun k => ?_
  simp only [ports, List.getElem?_map, List.getElem?_modify]
  cases sessions[k]? with
  | none => rfl
  | some session => split_ifs <;> rfl

lemma ports_forget (session : Session) : (forget session).port = session.port := rfl

lemma ports_remove (id : String) (kind : SessionKind) :
    ports (sessions.remove id kind) = sessions.ports := by
  unfold remove
  split
  · exact ports_modify _ ports_forget
  · rfl

lemma ports_evictIdle (kind : SessionKind) (limit now : Duration) :
    ports (sessions.evictIdle kind limit now) = sessions.ports := by
  rw [evictIdle_eq_map]
  refine ports_map fun session => ?_
  split_ifs <;> rfl

lemma ports_register_concat (session : Session) :
    ports (register (sessions ++ [session]) sessions.length) =
      sessions.ports ++ [session.port] := by
  have hforget : ports (sessions.map fun other =>
      if other.id == session.id then forget other else other) = sessions.ports := by
    refine ports_map fun other => ?_
    split_ifs <;> rfl
  rw [register_concat, ports, List.map_append, ← ports, hforget]
  rfl

end Sessions

namespace Hub

variable {hub : Hub}

/-- Replies see a change of an outbox. -/
lemma scene_setOutbox {hub' : Hub} {number : SessionNumber} {session : Session}
    (hget : hub.sessions[number]? = some session) (outbox : Outbox)
    (hsessions : hub'.sessions = hub.sessions.set number (session.withOutbox outbox))
    (hconfig : hub'.config = hub.config) (hstreams : hub'.streams = hub.streams)
    (hticket : hub'.nextTicket = hub.nextTicket) :
    hub'.scene = hub.scene.setOutbox number outbox := by
  have hmodify := Sessions.modify_eq_set hget fun session => session.withOutbox outbox
  rw [scene, hsessions, hconfig, hstreams, hticket, ← hmodify, Sessions.ports_modify_withOutbox]
  rfl

lemma scene_hear (elapsed : Duration) (number : SessionNumber) (session : Session)
    (message : Bytes) : (hub.hear elapsed number session message).1.scene = hub.scene := by
  simp only [hear, scene]
  exact congrArg (fun ports => (⟨_, ports, _, _⟩ : Scene))
    (Sessions.ports_modify number fun session => rfl)

lemma scene_advance (duration : Duration) : (hub.advance duration).scene = hub.scene := by
  unfold advance
  dsimp only
  split_ifs
  · simp only [scene, sweep, Sessions.ports_evictIdle]
  · rfl

lemma scene_openSession (id : String) (surface : Surface) (greeted : Bool) :
    (hub.openSession id surface greeted).scene =
      { hub.scene with ports := hub.scene.ports ++ [⟨id, surface⟩] } := by
  simp only [openSession, scene, Sessions.ports_register_concat]
  rfl

lemma scene_openStream (id : String) :
    (hub.openStream id).1.scene =
      { hub.scene with
        ports := hub.scene.ports ++ [⟨id, .sse (.ofCapacity outboxCapacity)⟩]
        streams := hub.scene.streams ++ [⟨hub.scene.ports.length, false, hub.time, true⟩] } := by
  have hopened := @scene_openSession hub id (.sse (.ofCapacity outboxCapacity)) false
  have hlength : hub.scene.ports.length = hub.sessions.length := List.length_map _
  rw [hlength]
  exact congrArg (fun scene : Scene => { scene with
    streams := hub.streams ++ [EventStream.mk hub.sessions.length false hub.time true] }) hopened

/-! ### Looks -/

/-- What can come of a look at a stream. -/
inductive Looks (hub : Hub) (number : StreamNumber) : Scene → Look → Prop
  | nothing {glance : Glance} (hglance : glance.frames = []) :
      Looks hub number hub.scene ⟨glance, none⟩
  | alive {stream : EventStream} (hstream : hub.streams[number]? = some stream)
      (hannounced : stream.announced = true) :
      Looks hub number (hub.scene.noteFrame number hub.time) ⟨.frame signOfLife, none⟩
  | announced {stream : EventStream} {port : Port} (hstream : hub.streams[number]? = some stream)
      (hport : hub.scene.ports[stream.session]? = some port)
      (hannounced : stream.announced = false) :
      Looks hub number (hub.scene.noteFrame number hub.time)
        ⟨.frame (eventText "endpoint" (endpointUrl hub.config.publicUrl port.id)), none⟩
  | received {stream : EventStream} {port : Port} {outbox : Outbox} {reply : Response}
      {queue : List Response} (hstream : hub.streams[number]? = some stream)
      (hopen : stream.isOpen = true) (hport : hub.scene.ports[stream.session]? = some port)
      (hannounced : stream.announced = true) (hsurface : port.surface = .sse outbox)
      (hqueue : outbox.queue = reply :: queue) :
      Looks hub number
        ((hub.scene.setOutbox stream.session { outbox with queue }.moveIn.1).noteFrame number
          hub.time)
        ⟨.frame (replyEvent reply), { outbox with queue }.moveIn.2⟩

/-- A reply is received from the front of the queue. -/
lemma exists_of_received {session session' : Session} {reply : Response}
    {movedIn : Option Ticket} (h : session.receive = .received reply session' movedIn) :
    ∃ outbox queue, session.surface = .sse outbox ∧ outbox.queue = reply :: queue ∧
      session' = session.withOutbox { outbox with queue }.moveIn.1 ∧
      movedIn = { outbox with queue }.moveIn.2 := by
  unfold Session.receive Session.outbox? at h
  split at h
  · cases h
  · next outbox houtbox =>
    split at houtbox
    · next hsurface =>
      cases houtbox
      split at h
      · cases h
      · unfold Outbox.next? at h
        cases hqueue : outbox.queue with
        | nil =>
          rw [hqueue] at h
          dsimp only at h
          split_ifs at h
        | cons first queue =>
          rw [hqueue] at h
          cases h
          exact ⟨outbox, queue, hsurface, hqueue, rfl, rfl⟩
    · cases houtbox
    · cases houtbox

/-- What comes of a look at a stream is one of these. -/
theorem Looks.of_look (hub : Hub) (number : StreamNumber) :
    Looks hub number (hub.look number).1.scene (hub.look number).2 := by
  unfold look
  cases hentry : hub.stream? number with
  | none => exact .nothing rfl
  | some entry =>
    obtain ⟨stream, session⟩ := entry
    obtain ⟨hstream, hopen, hget⟩ := exists_of_stream hentry
    have hport : hub.scene.ports[stream.session]? = some session.port :=
      Sessions.getElem?_ports hget
    simp only [lookAt]
    cases hannounced : stream.announced with
    | false =>
      have hlooks := Looks.announced hstream hport hannounced
      exact hlooks
    | true =>
      cases hreceive : session.receive with
      | received reply session' movedIn =>
        obtain ⟨outbox, queue, hsurface, hqueue, hsession', hmovedIn⟩ :=
          exists_of_received hreceive
        have hscene := @scene_setOutbox hub
          { hub with sessions := hub.sessions.set stream.session session' } _ _ hget _
          (by rw [hsession']) rfl rfl rfl
        have hlooks := Looks.received hstream hopen hport hannounced hsurface hqueue
        rw [← hmovedIn, ← hscene] at hlooks
        exact hlooks
      | empty =>
        simp only [Bool.not_true, Bool.false_eq_true, if_false]
        split_ifs
        · exact .alive hstream hannounced
        · exact .nothing rfl
      | closed => exact .nothing rfl
      | noReader => exact .nothing rfl

/-! ### Closings -/

/-- When the reader of an open stream goes away, the replies that stand in line are refused. -/
lemma scene_closeStream {number : StreamNumber} {stream : EventStream} {session : Session}
    {outbox : Outbox} (h : hub.stream? number = some (stream, session))
    (hsurface : session.surface = .sse outbox) :
    (hub.closeStream number).1.scene =
        (hub.scene.setOutbox stream.session outbox.close.1).closeStream number ∧
      (hub.closeStream number).2 = outbox.line.map Prod.fst := by
  obtain ⟨-, -, hget⟩ := exists_of_stream h
  have hstop : session.stopReading =
      (session.withOutbox outbox.close.1, outbox.line.map Prod.fst) := by
    simp only [Session.stopReading, Session.outbox?, hsurface, Outbox.close]
  have hscene := @scene_setOutbox hub { hub with
    sessions := hub.sessions.set stream.session (session.withOutbox outbox.close.1) } _ _ hget _
    rfl rfl rfl rfl
  simp only [closeStream, h, hstop, and_true]
  rw [← hscene]
  simp only [scene, Sessions.ports_remove, Scene.closeStream]

lemma scene_abandon (ticket : Ticket) : (hub.abandon ticket).scene = hub.scene.abandon ticket := by
  have hport (session : Session) : (session.abandon ticket).port =
      match session.port.surface with
      | .sse outbox => { session.port with surface := .sse (outbox.abandon ticket) }
      | .stdio | .http => session.port := by
    obtain ⟨id, surface, greeted, lastSeen, registered, held⟩ := session
    cases surface <;> rfl
  simp only [scene, abandon, Scene.abandon, Sessions.ports, List.map_map, Scene.mk.injEq,
    and_true, true_and]
  exact List.map_congr_left fun session _ => hport session

/-! ### Sending -/

/-- What can come of a reply that is sent on a stream: the scene after it, the reaction, and whether
the reply is in the outbox. -/
inductive Delivers (hub : Hub) (number : SessionNumber) (outbox : Outbox) (reply : Response) :
    Scene → Reaction → Bool → Prop
  | closed (hread : outbox.isRead = false) :
      Delivers hub number outbox reply hub.scene
        (.response (.text 410 "Session stream closed")) false
  | sent (hread : outbox.isRead = true) (hroom : outbox.hasRoom = true) :
      Delivers hub number outbox reply (hub.scene.setOutbox number (outbox.push reply))
        (.response accepted) true
  | full (hread : outbox.isRead = true) (hroom : outbox.hasRoom = false) :
      Delivers hub number outbox reply
        { hub.scene.setOutbox number (outbox.lineUp hub.nextTicket reply) with
          nextTicket := hub.nextTicket + 1 }
        (.waiting hub.nextTicket) false

end Hub

/-- Whether a reply that is sent comes into the outbox at once. -/
def Session.sends (session : Session) (reply : Response) : Bool :=
  match session.send reply with
  | .sent _ => true
  | .full _ | .failed _ => false

namespace Hub

variable {hub : Hub}

theorem Delivers.of_deliver {number : SessionNumber} {session : Session} {outbox : Outbox}
    (hget : hub.sessions[number]? = some session) (hsurface : session.surface = .sse outbox)
    (reply : Response) :
    Delivers hub number outbox reply (hub.deliver number session reply).1.scene
      (hub.deliver number session reply).2 (session.sends reply) := by
  unfold deliver Session.sends Session.send
  rw [hsurface]
  dsimp only
  cases hread : outbox.isRead with
  | false => exact .closed hread
  | true =>
    cases hroom : outbox.hasRoom with
    | true =>
      have hscene := @scene_setOutbox hub
        { hub with sessions := hub.sessions.set number (session.withOutbox (outbox.push reply)) }
        _ _ hget _ rfl rfl rfl rfl
      simp only [Bool.not_true, Bool.false_eq_true, if_false, if_true]
      rw [hscene]
      exact .sent hread hroom
    | false =>
      have hscene := @scene_setOutbox hub
        { hub with
          sessions := hub.sessions.set number
            (session.withOutbox (outbox.lineUp hub.nextTicket reply)) }
        _ _ hget _ rfl rfl rfl rfl
      have hdelivers := @Delivers.full hub number outbox reply hread hroom
      rw [← hscene] at hdelivers
      exact hdelivers

/-! ### Requests -/

/-- The session that a message reaches which is posted for a stream. -/
def addressee? (hub : Hub) (arrival : Arrival) : Option (SessionNumber × Session) :=
  let target := Target.ofText arrival.request.target
  if Route.ofPath? hub.config.transport target.path = some .messages ∧
      arrival.request.isAuthorized hub.config.authToken = true ∧
      arrival.request.method = "POST" ∧ arrival.request.isTooLong = false then
    match queriedSession target.query with
    | .given id => hub.streamSession? id
    | .absent | .repeated => none
  else none

variable {arrival : Arrival}

lemma find_of_streamSession {bytes : Bytes} {number : SessionNumber} {session : Session}
    (h : hub.streamSession? bytes = some (number, session)) :
    ∃ id, bytes.text? = some id ∧ hub.sessions.find? id .sse = some number := by
  simp only [streamSession?, Option.bind_eq_bind, Option.bind_eq_some_iff, Option.some.injEq,
    Prod.mk.injEq] at h
  obtain ⟨id, htext, _, hfind, _, -, rfl, -⟩ := h
  exact ⟨id, htext, hfind⟩

/-- A message reaches the session that its query names. -/
lemma postsForStream_of_addressee {number : SessionNumber} {session : Session}
    (h : hub.addressee? arrival = some (number, session)) :
    arrival.PostsForStream hub.config session.id ∧ hub.sessions[number]? = some session ∧
      session.kind = .sse := by
  unfold addressee? at h
  dsimp only at h
  split_ifs at h with hasks
  obtain ⟨hroute, hauthorized, hmethod, hfits⟩ := hasks
  split at h
  · next bytes hquery =>
    obtain ⟨hget, hkind⟩ := exists_of_streamSession h
    obtain ⟨id, htext, hfind⟩ := find_of_streamSession h
    obtain ⟨found, hget', hanswers⟩ := Sessions.exists_of_find hfind
    obtain rfl : session = found := Option.some.inj (hget.symm.trans hget')
    have hid : session.id = id := (Badge.answersTo_iff.1 hanswers).2.1
    exact ⟨⟨⟨hmethod, (Route.ofPath_eq_some_iff.1 hroute).2, hauthorized⟩, hfits,
      bytes, hquery, hid ▸ htext⟩, hget, hkind⟩
  · cases h
  · cases h

/-- A message that reaches a session is handled for its stream. -/
theorem request_of_addressee {number : SessionNumber} {session : Session}
    (h : hub.addressee? arrival = some (number, session)) :
    hub.request arrival =
      ((hub.hearForStream arrival.elapsed number session arrival.request.body).1,
        (hub.hearForStream arrival.elapsed number session arrival.request.body).2.mapResponse
          (complete .messages "POST")) := by
  obtain ⟨hposts, -⟩ := postsForStream_of_addressee h
  unfold addressee? at h
  dsimp only at h
  split_ifs at h with hasks
  have hserved := (Route.ofPath_eq_some_iff.1 hasks.1).1
  have hmessages : arrival.Asks hub.config "POST" Route.messages.path := hposts.asks
  rw [request_of_asks hmessages (by decide) hserved, hposts.asks.method_eq]
  split at h
  · next bytes hquery =>
    simp only [serve, postForStream, hquery, hposts.fits, Bool.false_eq_true, if_false, h]
  · cases h
  · cases h

/-- What can come of a request that reaches no session. -/
inductive Enters (hub : Hub) (arrival : Arrival) : Scene → Prop
  | nothing : Enters hub arrival hub.scene
  | silent {surface : Surface}
      (hsurface : ∀ outbox, surface = .sse outbox →
        outbox = (Outbox.ofCapacity outboxCapacity).close.1) :
      Enters hub arrival
        { hub.scene with ports := hub.scene.ports ++ [⟨arrival.freshId, surface⟩] }
  | connected :
      Enters hub arrival
        { hub.scene with
          ports := hub.scene.ports ++
            [⟨arrival.freshId, .sse (.ofCapacity outboxCapacity)⟩]
          streams := hub.scene.streams ++ [⟨hub.scene.ports.length, false, hub.time, true⟩] }

lemma Enters.of_scene {scene : Scene} (h : scene = hub.scene) : hub.Enters arrival scene :=
  h ▸ .nothing

/-- A message for a stream that reaches no session is refused. -/
lemma postForStream_of_not_addressee (h : hub.addressee? arrival = none)
    (hserved : hub.config.transport.servesStreams = true)
    (hasks : arrival.Asks hub.config "POST" "/messages") :
    ∃ response, hub.postForStream arrival (Target.ofText arrival.request.target).query =
      (hub, .response response) ∧ response.status ∈ [400, 404, 413] := by
  have hroute : Route.ofPath? hub.config.transport arrival.path = some .messages :=
    Route.ofPath_eq_some_iff.2 ⟨hserved, hasks.path_eq⟩
  unfold postForStream
  split
  · exact ⟨_, rfl, by decide⟩
  · split_ifs
    · exact ⟨_, rfl, by decide⟩
    · exact ⟨_, rfl, by decide⟩
  · next bytes hquery =>
    split_ifs with hlong
    · exact ⟨_, rfl, by decide⟩
    · have hnone : hub.streamSession? bytes = none := by
        have hfits : arrival.request.isTooLong = false := by simpa using hlong
        rw [← h, addressee?, if_pos ⟨hroute, hasks.authorized, hasks.method_eq, hfits⟩]
        simp only [hquery]
      rw [hnone]
      exact ⟨_, rfl, by decide⟩

/-- A message is answered neither as taken nor as come too late if it reaches no session. -/
lemma status_of_not_addressee (h : hub.addressee? arrival = none)
    (hmethod : arrival.request.method = "POST") (hpath : arrival.path = "/messages") :
    ∃ response, (hub.request arrival).2 = .response response ∧
      response.status ∈ [400, 401, 404, 413] := by
  have hoptions : arrival.request.method ≠ "OPTIONS" := by
    rw [hmethod]
    decide
  cases hfound : Route.ofPath? hub.config.transport arrival.path with
  | none =>
    refine ⟨(HttpResponse.bare 404).shared, ?_, by decide⟩
    have hfound' : Route.ofPath? hub.config.transport
        (Target.ofText arrival.request.target).path = none := hfound
    simp only [request, hoptions, if_false, hfound']
  | some route =>
    obtain ⟨hserved, hroute⟩ := Route.ofPath_eq_some_iff.1 hfound
    obtain rfl : route = .messages := by
      rw [hpath] at hroute
      cases route <;> first | rfl | exact absurd hroute (by decide)
    by_cases hauthorized : arrival.request.isAuthorized hub.config.authToken = true
    · obtain ⟨response, hrefused, hstatus⟩ :=
        postForStream_of_not_addressee h hserved ⟨hmethod, hpath, hauthorized⟩
      have hasks : arrival.Asks hub.config "POST" Route.messages.path :=
        ⟨hmethod, hpath, hauthorized⟩
      rw [request_of_asks hasks (by decide) hserved, serve, hrefused]
      refine ⟨_, rfl, ?_⟩
      rw [status_complete]
      revert hstatus
      simp only [List.mem_cons, List.not_mem_nil, or_false]
      omega
    · rw [request_of_not_authorized hoptions hfound rfl hauthorized]
      exact ⟨_, rfl, by simp⟩

lemma Enters.of_post (hub : Hub) (arrival : Arrival) :
    hub.Enters arrival (hub.post arrival).1.scene := by
  unfold post
  split_ifs
  · exact .nothing
  split
  · exact .nothing
  · split
    · unfold postWithoutSession
      split_ifs
      · dsimp only
        split_ifs
        · rw [scene_openSession]
          exact .silent nofun
        · exact .nothing
      · exact .nothing
    · split_ifs
      · exact .nothing
      · split
        · exact .nothing
        · split
          · exact .nothing
          · refine .of_scene ?_
            simp only [postInSession, scene]
            exact congrArg (fun ports => (⟨_, ports, _, _⟩ : Scene))
              (Sessions.ports_modify _ fun session => rfl)

/-- What comes of a request that reaches no session is one of these. -/
theorem Enters.of_request (h : hub.addressee? arrival = none) :
    hub.Enters arrival (hub.request arrival).1.scene := by
  unfold request
  dsimp only
  split_ifs
  · exact .nothing
  split
  · exact .nothing
  next route hroute =>
  unfold Hub.route
  dsimp only
  split_ifs with hguarded hmethod
  · exact .nothing
  · exact .nothing
  cases route with
  | health | version => exact .nothing
  | events =>
    simp only [serve]
    split
    · rw [strandSession, scene_openSession]
      exact .silent fun _ heq => (Surface.sse.inj heq).symm
    · split_ifs
      · exact .nothing
      · rw [scene_openStream]
        exact .connected
  | messages =>
    simp only [Route.isGuarded, Bool.true_and, Bool.not_eq_true', Bool.not_eq_false] at hguarded
    have hpost : arrival.request.method = "POST" := by
      simpa [Route.methods] using hmethod
    have hserved := Route.ofPath_eq_some_iff.1 hroute
    obtain ⟨response, hrefused, -⟩ :=
      postForStream_of_not_addressee h hserved.1 ⟨hpost, hserved.2, hguarded⟩
    simp only [serve, hrefused]
    exact .nothing
  | rpc =>
    simp only [serve]
    split_ifs
    · unfold delete
      split
      · exact .nothing
      · split
        · exact .nothing
        · refine .of_scene ?_
          simp only [scene, Sessions.ports_remove]
    · exact .of_post hub arrival

end Hub

end WorldClock
