import WorldClock.Hub.Router
import WorldClock.Proofs.Session.Registry
/-!
# Effects on the registry

What the parts of the hub do to the registry and to the streams, apart from requests as a whole.
Handling a message for a stream and reading from a stream do nothing that the registry sees
(`Hub.Becomes`), and they leave alone the sessions that are answered at once.
-/

namespace WorldClock

/-! ### Events -/

/-- Lists are told apart after each of their members has been followed by some more. -/
lemma flatMap_injective_of_head {α : Type} {f : α → List α} (hf : ∀ a, ∃ rest, f a = a :: rest) :
    Function.Injective (List.flatMap f) := by
  intro as
  induction as with
  | nil =>
    rintro (_ | ⟨b, bs⟩) h
    · rfl
    · obtain ⟨rest, hb⟩ := hf b
      simp [hb] at h
  | cons a as ih =>
    rintro (_ | ⟨b, bs⟩) h
    · obtain ⟨rest, ha⟩ := hf a
      simp [ha] at h
    · obtain ⟨rest, ha⟩ := hf a
      obtain ⟨rest', hb⟩ := hf b
      rw [List.flatMap_cons, List.flatMap_cons] at h
      have hab : a = b := by
        rw [ha, hb] at h
        exact (List.cons.inj h).1
      subst hab
      rw [ih (List.append_cancel_left h)]

lemma dataLines_injective : Function.Injective dataLines := by
  intro a b h
  refine String.toList_inj.1 (flatMap_injective_of_head (fun c => ?_) (String.ofList_injective h))
  by_cases hc : c = '\n'
  · subst hc
    exact ⟨"data: ".toList, by decide⟩
  · exact ⟨[], if_neg hc⟩

/-- The first event of a stream tells ids apart. -/
lemma announcement_injective (publicUrl : Option String) :
    Function.Injective fun id => eventText "endpoint" (endpointUrl publicUrl id) := by
  intro id id' h
  simp only [eventText, endpointUrl] at h
  have hurl := dataLines_injective ((String.append_right_inj _).1 ((String.append_left_inj _).1 h))
  exact (String.append_right_inj _).1 hurl

namespace Hub

/-! ### States of the hub -/

/-- Where the streams lead: the session of each, and whether it is open. -/
def links (hub : Hub) : List (SessionNumber × Bool) :=
  hub.streams.map fun stream => (stream.session, stream.isOpen)

@[simp] lemma length_links (hub : Hub) : hub.links.length = hub.streams.length :=
  List.length_map _

/-- A hub becomes another at the same time. Of its sessions only the badges count, and of its
streams only where they lead. -/
structure Becomes (hub hub' : Hub) (badges : List Badge) (links : List (SessionNumber × Bool)) :
    Prop where
  config : hub'.config = hub.config
  time : hub'.time = hub.time
  badges : hub'.sessions.badges = badges
  links : hub'.links = links

/-- A hub becomes another in a way that the registry does not see and that leaves alone the sessions
that are answered at once. -/
structure Quiet (hub hub' : Hub) : Prop extends
    hub.Becomes hub' hub.sessions.badges hub.links where
  spares : Sessions.Spares .http hub.sessions hub'.sessions

lemma Quiet.refl (hub : Hub) : hub.Quiet hub :=
  ⟨⟨rfl, rfl, rfl, rfl⟩, .refl _ _⟩

lemma Quiet.trans {hub hub' hub'' : Hub} (h : hub.Quiet hub') (h' : hub'.Quiet hub'') :
    hub.Quiet hub'' where
  config := h'.config.trans h.config
  time := h'.time.trans h.time
  badges := h'.badges.trans h.badges
  links := h'.links.trans h.links
  spares number session hget hkind :=
    h'.spares number session (h.spares number session hget hkind) hkind

lemma quiet_server (hub : Hub) (server : Server) : hub.Quiet { hub with server } :=
  ⟨⟨rfl, rfl, rfl, rfl⟩, .refl _ _⟩

/-- The session of a stream may change in any way that the registry does not see. -/
lemma quiet_set {hub hub' : Hub} {number : SessionNumber} {session : Session}
    (hget : hub.sessions[number]? = some session) (hkind : session.kind = .sse)
    (session' : Session) (hbadge : session'.badge = session.badge)
    (hconfig : hub'.config = hub.config) (htime : hub'.time = hub.time)
    (hlinks : hub'.links = hub.links)
    (hsessions : hub'.sessions = hub.sessions.set number session') : hub.Quiet hub' where
  config := hconfig
  time := htime
  badges := hsessions ▸ Sessions.badges_set_same hget hbadge
  links := hlinks
  spares := hsessions ▸ Sessions.spares_set hget (by simp [hkind]) session'

/-- A hub becomes another with a server, which has the same configuration and the same clock. -/
structure Serves (hub hub' : Hub) (server : Server) : Prop where
  config : hub'.config = hub.config
  clock : hub'.clock = hub.clock
  server : hub'.server = server

/-! ### Messages for streams -/

lemma badge_withOutbox {session : Session} (h : session.kind = .sse) (outbox : Outbox) :
    (session.withOutbox outbox).badge = session.badge := by
  simp only [Session.badge, Session.withOutbox, Session.kind, Surface.kind] at h ⊢
  simp [h]

lemma kind_of_outbox {session : Session} {outbox : Outbox} (h : session.outbox? = some outbox) :
    session.kind = .sse := by
  unfold Session.outbox? at h
  unfold Session.kind
  cases hsurface : session.surface <;> simp [hsurface, Surface.kind] at h ⊢

lemma hear_eq (hub : Hub) (elapsed : Duration) {number : SessionNumber} {session : Session}
    (hget : hub.sessions[number]? = some session) (message : Bytes) :
    (hub.hear elapsed number session message).1 =
      { hub with
        server := (hub.server.handle ⟨hub.clock, elapsed⟩ session.greeted message).server
        sessions := hub.sessions.set number
          { session with
            greeted :=
              (hub.server.handle ⟨hub.clock, elapsed⟩ session.greeted message).greeted } } := by
  simp only [hear, Sessions.modify_eq_set hget]

lemma quiet_hear (hub : Hub) (elapsed : Duration) {number : SessionNumber} {session : Session}
    (hget : hub.sessions[number]? = some session) (hkind : session.kind = .sse) (message : Bytes) :
    hub.Quiet (hub.hear elapsed number session message).1 := by
  rw [hear_eq hub elapsed hget]
  refine quiet_set hget hkind _ ?_ rfl rfl rfl rfl
  rfl

lemma quiet_deliver (hub : Hub) {number : SessionNumber} {session : Session}
    (hget : hub.sessions[number]? = some session) (hkind : session.kind = .sse)
    (reply : Response) : hub.Quiet (hub.deliver number session reply).1 := by
  unfold deliver
  cases hsend : session.send reply with
  | sent session' =>
    refine quiet_set hget hkind session' ?_ rfl rfl rfl rfl
    unfold Session.send at hsend
    split at hsend
    · cases hsend
    · cases hsend
    · split_ifs at hsend
      cases hsend
      exact badge_withOutbox hkind _
  | full outbox => exact quiet_set hget hkind _ (badge_withOutbox hkind _) rfl rfl rfl rfl
  | failed error => exact .refl hub

lemma quiet_hearForStream (hub : Hub) (elapsed : Duration) {number : SessionNumber}
    {session : Session} (hget : hub.sessions[number]? = some session) (hkind : session.kind = .sse)
    (message : Bytes) : hub.Quiet (hub.hearForStream elapsed number session message).1 := by
  have hquiet := quiet_hear hub elapsed hget hkind message
  have heq := hear_eq hub elapsed hget message
  unfold hearForStream
  generalize hub.hear elapsed number session message = outcome at hquiet heq
  obtain ⟨hub', answer⟩ := outcome
  cases answer with
  | silence => exact hquiet
  | stopped cause => exact hquiet
  | reply reply =>
    have hget' : hub'.sessions[number]? = some { session with
        greeted := (hub.server.handle ⟨hub.clock, elapsed⟩ session.greeted message).greeted } := by
      rw [show hub'.sessions = _ from congrArg Hub.sessions heq]
      exact List.getElem?_set_self (List.getElem?_eq_some_iff.1 hget).1
    simp only [hget']
    exact hquiet.trans (quiet_deliver hub' hget' hkind reply)

/-! ### Opening sessions -/

/-- The session that is opened under a new id. -/
def newSession (hub : Hub) (id : String) (surface : Surface) (greeted : Bool) : Session :=
  { Session.opened id surface hub.time with greeted, held := false, registered := true }

lemma openSession_eq (hub : Hub) {id : String} (hfresh : id ∉ hub.sessions.ids) (surface : Surface)
    (greeted : Bool) :
    hub.openSession id surface greeted =
      { hub with sessions := hub.sessions ++ [hub.newSession id surface greeted] } := by
  have hfresh' : (Session.mk id surface greeted hub.time false false).id ∉ hub.sessions.ids :=
    hfresh
  simp only [openSession, Session.opened, Sessions.register_append hfresh', newSession]

lemma openStream_eq (hub : Hub) {id : String} (hfresh : id ∉ hub.sessions.ids) :
    (hub.openStream id).1 =
      { hub with
        sessions := hub.sessions ++
          [hub.newSession id (.sse (.ofCapacity outboxCapacity)) false]
        streams := hub.streams ++ [⟨hub.sessions.length, false, hub.time, true⟩] } := by
  simp only [openStream, openSession_eq hub hfresh]

/-- The first event of a stream, as long as nothing has been read on it. -/
def announcement? (hub : Hub) (number : StreamNumber) : Option String :=
  match (hub.look number).2.glance with
  | .frame text => some text
  | .nothing | .ended => none

/-- The first event of a stream that has just been opened names the id of its session. -/
lemma announcement_openStream (hub : Hub) {id : String} (hfresh : id ∉ hub.sessions.ids) :
    (hub.openStream id).1.announcement? hub.streams.length =
      some (eventText "endpoint" (endpointUrl hub.config.publicUrl id)) := by
  rw [openStream_eq hub hfresh]
  simp [announcement?, look, stream?, lookAt, newSession, Session.opened, endpoint]

/-! ### Reading from streams -/

lemma exists_of_stream {hub : Hub} {number : StreamNumber} {stream : EventStream}
    {session : Session} (h : hub.stream? number = some (stream, session)) :
    hub.streams[number]? = some stream ∧ stream.isOpen = true ∧
      hub.sessions[stream.session]? = some session := by
  simp only [stream?, Option.bind_eq_bind, Option.bind_eq_some_iff, Option.guard_eq_some',
    Option.some.injEq, Prod.mk.injEq] at h
  obtain ⟨stream', hstream, -, hopen, session', hsession, rfl, rfl⟩ := h
  exact ⟨hstream, hopen, hsession⟩

/-- What happens to the streams does not show in their links if it does not show in one of them. -/
lemma map_link_modify (streams : List EventStream) (number : StreamNumber)
    (change : EventStream → EventStream) (link : SessionNumber × Bool → SessionNumber × Bool)
    (h : ∀ stream, ((change stream).session, (change stream).isOpen) =
      link (stream.session, stream.isOpen)) :
    (streams.modify number change).map (fun stream => (stream.session, stream.isOpen)) =
      (streams.map fun stream => (stream.session, stream.isOpen)).modify number link := by
  refine List.ext_getElem? fun k => ?_
  simp only [List.getElem?_map, List.getElem?_modify]
  cases streams[k]? with
  | none => simp
  | some stream =>
    by_cases hk : number = k
    · simp [hk, h]
    · simp [hk]

lemma links_noteFrame (hub : Hub) (number : StreamNumber) :
    (hub.noteFrame number).links = hub.links := by
  refine (map_link_modify hub.streams number
    (fun stream => { stream with announced := true, lastFrame := hub.time }) id
    fun _ => rfl).trans ?_
  rw [List.modify_id]
  rfl

lemma quiet_noteFrame (hub : Hub) (number : StreamNumber) : hub.Quiet (hub.noteFrame number) :=
  ⟨⟨rfl, rfl, rfl, links_noteFrame hub number⟩, .refl _ _⟩

lemma receive_eq_received {session session' : Session} {response : Response}
    {movedIn : Option Ticket} (h : session.receive = .received response session' movedIn) :
    session.kind = .sse ∧ session'.badge = session.badge := by
  unfold Session.receive at h
  split at h
  · cases h
  · next outbox houtbox =>
    have hkind := kind_of_outbox houtbox
    split at h
    · cases h
    · split at h
      · cases h
        exact ⟨hkind, badge_withOutbox hkind _⟩
      · split at h <;> cases h

/-- A look at a stream does nothing that the registry sees. -/
lemma quiet_look (hub : Hub) (number : StreamNumber) : hub.Quiet (hub.look number).1 := by
  unfold look
  cases hstream : hub.stream? number with
  | none => exact .refl hub
  | some entry =>
    obtain ⟨stream, session⟩ := entry
    obtain ⟨-, -, hget⟩ := exists_of_stream hstream
    simp only [lookAt]
    split
    · exact quiet_noteFrame hub number
    · split
      · next response session' movedIn hreceive =>
        obtain ⟨hkind, hbadge⟩ := receive_eq_received hreceive
        have hset : hub.Quiet
            { hub with sessions := hub.sessions.set stream.session session' } :=
          quiet_set hget hkind session' hbadge rfl rfl rfl rfl
        exact hset.trans (quiet_noteFrame _ number)
      · split
        · exact quiet_noteFrame hub number
        · exact .refl hub
      · exact .refl hub
      · exact .refl hub

lemma quiet_abandon (hub : Hub) (ticket : Ticket) : hub.Quiet (hub.abandon ticket) := by
  have hbadge : ∀ session : Session, (session.abandon ticket).badge = session.badge := by
    intro session
    unfold Session.abandon
    split
    · rfl
    · next houtbox => exact badge_withOutbox (kind_of_outbox houtbox) _
  refine ⟨⟨rfl, rfl, ?_, rfl⟩, ?_⟩
  · simp only [abandon, Sessions.badges, List.map_map]
    exact List.map_congr_left fun session _ => hbadge session
  · intro number session hget hkind
    have hsame : session.abandon ticket = session := by
      unfold Session.abandon
      split
      · rfl
      · next houtbox => simp [kind_of_outbox houtbox] at hkind
    simp [abandon, hget, hsame]

/-! ### Closing streams -/

lemma badge_stopReading (session : Session) : session.stopReading.1.badge = session.badge := by
  unfold Session.stopReading
  split
  · rfl
  · next houtbox => exact badge_withOutbox (kind_of_outbox houtbox) _

lemma closeStream_of_none {hub : Hub} {number : StreamNumber} (h : hub.stream? number = none) :
    (hub.closeStream number).1 = hub := by
  simp only [closeStream, h]

/-- When the reader of an open stream goes away, the session of the stream goes with it. -/
lemma becomes_closeStream {hub : Hub} (hids : hub.sessions.ids.Nodup) {number : StreamNumber}
    {stream : EventStream} {session : Session} (h : hub.stream? number = some (stream, session)) :
    hub.Becomes (hub.closeStream number).1
      (hub.sessions.badges.map (Badge.changeIf session.id .sse Badge.forget))
      (hub.links.modify number fun link => (link.1, false)) := by
  obtain ⟨-, -, hget⟩ := exists_of_stream h
  have hbadges : Sessions.badges (hub.sessions.set stream.session session.stopReading.1) =
      hub.sessions.badges := Sessions.badges_set_same hget (badge_stopReading session)
  have hids' : Sessions.ids (hub.sessions.set stream.session session.stopReading.1) =
      hub.sessions.ids := by
    rw [Sessions.ids_eq_map_badges, hbadges, ← Sessions.ids_eq_map_badges]
  have hid : session.stopReading.1.id = session.id :=
    congrArg Badge.id (badge_stopReading session)
  simp only [closeStream, h]
  refine ⟨rfl, rfl, ?_, map_link_modify _ _ _ _ fun _ => rfl⟩
  dsimp only
  rw [Sessions.badges_remove (hids' ▸ hids), hbadges, hid]

lemma spares_closeStream (hub : Hub) (number : StreamNumber) :
    Sessions.Spares .http hub.sessions (hub.closeStream number).1.sessions := by
  unfold closeStream
  cases hstream : hub.stream? number with
  | none => exact .refl _ _
  | some entry =>
    obtain ⟨stream, session⟩ := entry
    obtain ⟨-, -, hget⟩ := exists_of_stream hstream
    have hspares : Sessions.Spares .http hub.sessions
        (hub.sessions.set stream.session session.stopReading.1) := by
      unfold Session.stopReading
      split
      · obtain ⟨hlt, rfl⟩ := List.getElem?_eq_some_iff.1 hget
        rw [List.set_getElem_self hlt]
        exact .refl _ _
      · next houtbox => exact Sessions.spares_set hget (by simp [kind_of_outbox houtbox]) _
    intro k other hother hkind
    exact Sessions.spares_remove (by decide) _ _ k other (hspares k other hother hkind) hkind

end Hub

end WorldClock
