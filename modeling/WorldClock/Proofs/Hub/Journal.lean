import WorldClock.Proofs.Hub.Traffic
/-!
# Journals

What there is to know of messages on their way without knowing how a hub works: what replies see of
it, how far the messages have come, which replies have come into outboxes, and what has been read
(`Journal`). A journal is sound if what has been read from an open stream and what is still to be
read on it are the replies that were sent to its session (`Journal.Tells`), and if every message is
answered for what became of its reply (`Journal.Fits`). It stays so when messages and clients come
in and when messages go on (`Journal.Moves`).
-/

namespace WorldClock

/-- What is known of the messages on their way. -/
structure Journal where
  scene : Scene
  postings : List Posting
  sent : List SentReply
  frames : List (StreamNumber × String)

/-- What is known of the messages on their way. -/
def Traffic.journal (traffic : Traffic) : Journal :=
  ⟨traffic.hub.scene, traffic.postings, traffic.sent, traffic.frames⟩

/-! ### Scenes -/

namespace Scene

/-- The ids of all sessions. -/
def ids (scene : Scene) : List String :=
  scene.ports.map Port.id

variable {scene : Scene} {number other : SessionNumber} {id : String} {outbox outbox' : Outbox}

lemma getElem?_setOutbox_self {surface : Surface}
    (h : scene.ports[number]? = some ⟨id, surface⟩) (outbox : Outbox) :
    (scene.setOutbox number outbox).ports[number]? = some ⟨id, .sse outbox⟩ := by
  simp [setOutbox, h]

/-- To put in the outbox that is there is to do nothing. -/
lemma setOutbox_eq_self (h : scene.ports[number]? = some ⟨id, .sse outbox⟩) :
    scene.setOutbox number outbox = scene := by
  obtain ⟨hlt, hget⟩ := List.getElem?_eq_some_iff.1 h
  have hports : (scene.ports.modify number fun port => { port with surface := .sse outbox }) =
      scene.ports := by
    refine List.ext_getElem? fun k => ?_
    rw [List.getElem?_modify]
    split_ifs with hk
    · subst hk
      simp [h]
    · simp
  rw [setOutbox, hports]

lemma getElem?_setOutbox_ne (h : other ≠ number) (outbox : Outbox) :
    (scene.setOutbox number outbox).ports[other]? = scene.ports[other]? := by
  exact List.getElem?_modify_ne _ _ h.symm

lemma setOutbox_setOutbox (outbox outbox' : Outbox) :
    (scene.setOutbox number outbox).setOutbox number outbox' = scene.setOutbox number outbox' := by
  simp only [setOutbox, List.modify_modify_eq]
  rfl

lemma getElem?_ids {port : Port} (h : scene.ports[number]? = some port) :
    scene.ids[number]? = some port.id := by
  rw [ids, List.getElem?_map, h, Option.map_some]

lemma ids_setOutbox (number : SessionNumber) (outbox : Outbox) :
    (scene.setOutbox number outbox).ids = scene.ids := by
  refine List.ext_getElem? fun k => ?_
  simp only [ids, setOutbox, List.getElem?_map, List.getElem?_modify]
  cases scene.ports[k]? with
  | none => rfl
  | some port => split_ifs <;> rfl

end Scene

namespace Journal

/-- The replies that have come into the outbox of a session, in their order. -/
def sentTo (journal : Journal) (number : SessionNumber) : List Response :=
  (journal.sent.filter fun entry => entry.session == number).map SentReply.reply

/-- What has been read from a stream. -/
def framesOf (journal : Journal) (number : StreamNumber) : List String :=
  (journal.frames.filter fun frame => frame.1 == number).map Prod.snd

/-- The event that announces a stream for the session with an id. -/
def announcement (journal : Journal) (id : String) : String :=
  eventText "endpoint" (endpointUrl journal.scene.config.publicUrl id)

variable {journal journal' : Journal}

/-! ### What is known of streams, outboxes and messages -/

/-- What has been read from a stream is its announcement and some replies. These were sent to its
session before all others, and as long as the stream is open, the others wait in the outbox. -/
structure Tells (journal : Journal) (number : StreamNumber) (stream : EventStream) (id : String)
    (outbox : Outbox) (taken : List Response) : Prop where
  port_eq : journal.scene.ports[stream.session]? = some ⟨id, .sse outbox⟩
  isRead_eq : outbox.isRead = stream.isOpen
  events_eq : eventsIn (journal.framesOf number) =
    if stream.announced then journal.announcement id :: taken.map replyEvent else []
  taken_eq_nil : stream.announced = false → taken = []
  taken_prefix : taken <+: journal.sentTo stream.session
  taken_append : stream.isOpen = true → taken ++ outbox.queue = journal.sentTo stream.session

/-- The outbox of a session is not too full, and the replies in line are those of messages that
wait. -/
structure Holds (journal : Journal) (number : SessionNumber) (outbox : Outbox) : Prop where
  capacity_eq : outbox.capacity = outboxCapacity
  length_le : outbox.queue.length ≤ outboxCapacity
  line_nodup : (outbox.line.map Prod.fst).Nodup
  waits : ∀ {ticket : Ticket} {reply : Response}, (ticket, reply) ∈ outbox.line →
    ∃ (posting : PostingNumber) (arrival : Arrival),
      journal.postings[posting]? = some ⟨arrival, number, .waiting ticket reply⟩
  line_eq_nil : outbox.isRead = false → outbox.line = []

/-- A message was posted for its session. If its reply waits, it stands in line; and if it is
answered, the response tells what became of its reply. -/
structure Fits (journal : Journal) (number : PostingNumber) (posting : Posting) (id : String)
    (outbox : Outbox) : Prop where
  port_eq : journal.scene.ports[posting.session]? = some ⟨id, .sse outbox⟩
  posts : posting.arrival.PostsForStream journal.scene.config id
  waiting : ∀ {ticket : Ticket} {reply : Response}, posting.stage = .waiting ticket reply →
    ticket < journal.scene.nextTicket ∧ (ticket, reply) ∈ outbox.line
  answered : ∀ {due : Option Response} {response : HttpResponse},
    posting.stage = .answered due response →
      response.status = 202 ∧
          (∀ reply ∈ due, ⟨number, posting.session, reply⟩ ∈ journal.sent) ∨
        response.status = 410 ∧ due ≠ none ∧ outbox.isRead = false

/-- All that is kept in a journal fits together. -/
structure Sound (journal : Journal) : Prop where
  tells : ∀ {number : StreamNumber} {stream : EventStream},
    journal.scene.streams[number]? = some stream →
      ∃ id outbox taken, journal.Tells number stream id outbox taken
  streams_inj : ∀ {number number' : StreamNumber} {stream stream' : EventStream},
    journal.scene.streams[number]? = some stream →
      journal.scene.streams[number']? = some stream' → stream.session = stream'.session →
        number = number'
  holds : ∀ {number : SessionNumber} {id : String} {outbox : Outbox},
    journal.scene.ports[number]? = some ⟨id, .sse outbox⟩ → journal.Holds number outbox
  fits : ∀ {number : PostingNumber} {posting : Posting},
    journal.postings[number]? = some posting → ∃ id outbox, journal.Fits number posting id outbox
  tickets_inj : ∀ {number number' : PostingNumber} {posting posting' : Posting} {ticket : Ticket}
    {reply reply' : Response}, journal.postings[number]? = some posting →
      journal.postings[number']? = some posting' → posting.stage = .waiting ticket reply →
        posting'.stage = .waiting ticket reply' → number = number'
  sent_answered : ∀ entry ∈ journal.sent, ∃ arrival response,
    journal.postings[entry.posting]? =
      some ⟨arrival, entry.session, .answered (some entry.reply) response⟩ ∧ response.status = 202
  ids_nodup : journal.scene.ids.Nodup
  sent_nodup : (journal.sent.map SentReply.posting).Nodup
  frames_lt : ∀ frame ∈ journal.frames, frame.1 < journal.scene.streams.length

lemma sound_start (config : Config) (clock : Instant) (zones : ZoneTable) :
    (Traffic.start config clock zones).journal.Sound where
  tells h := by cases h
  streams_inj h := by cases h
  holds h := by cases h
  fits h := by cases h
  tickets_inj h := by cases h
  sent_answered _ h := by cases h
  ids_nodup := List.nodup_nil
  sent_nodup := List.nodup_nil
  frames_lt _ h := by cases h

/-! ### What is kept -/

lemma Tells.of_eq {number : StreamNumber} {stream : EventStream} {id : String}
    {outbox : Outbox} {taken : List Response} (h : journal.Tells number stream id outbox taken)
    (hconfig : journal'.scene.config = journal.scene.config)
    (hport : journal'.scene.ports[stream.session]? = journal.scene.ports[stream.session]?)
    (hframes : journal'.framesOf number = journal.framesOf number)
    (hsent : journal'.sentTo stream.session = journal.sentTo stream.session) :
    journal'.Tells number stream id outbox taken where
  port_eq := hport.trans h.port_eq
  isRead_eq := h.isRead_eq
  events_eq := by rw [hframes, announcement, hconfig]; exact h.events_eq
  taken_eq_nil := h.taken_eq_nil
  taken_prefix := hsent ▸ h.taken_prefix
  taken_append := hsent ▸ h.taken_append

lemma Holds.of_postings {number : SessionNumber} {outbox : Outbox} (h : journal.Holds number outbox)
    (hpostings : ∀ {posting : PostingNumber} {arrival : Arrival} {ticket : Ticket}
      {reply : Response}, (ticket, reply) ∈ outbox.line →
        journal.postings[posting]? = some ⟨arrival, number, .waiting ticket reply⟩ →
          journal'.postings[posting]? = some ⟨arrival, number, .waiting ticket reply⟩) :
    journal'.Holds number outbox where
  capacity_eq := h.capacity_eq
  length_le := h.length_le
  line_nodup := h.line_nodup
  waits hmem := by
    obtain ⟨posting, arrival, hget⟩ := h.waits hmem
    exact ⟨posting, arrival, hpostings hmem hget⟩
  line_eq_nil := h.line_eq_nil

lemma Fits.mono {number : PostingNumber} {posting : Posting} {id : String}
    {outbox outbox' : Outbox} (h : journal.Fits number posting id outbox)
    (hconfig : journal'.scene.config = journal.scene.config)
    (hport : journal'.scene.ports[posting.session]? = some ⟨id, .sse outbox'⟩)
    (hline : ∀ {ticket : Ticket} {reply : Response}, posting.stage = .waiting ticket reply →
      (ticket, reply) ∈ outbox.line → (ticket, reply) ∈ outbox'.line)
    (hread : outbox.isRead = false → outbox'.isRead = false)
    (hticket : journal.scene.nextTicket ≤ journal'.scene.nextTicket)
    (hsent : journal.sent ⊆ journal'.sent) : journal'.Fits number posting id outbox' where
  port_eq := hport
  posts := hconfig ▸ h.posts
  waiting hstage :=
    have hwaiting := h.waiting hstage
    ⟨hwaiting.1.trans_le hticket, hline hstage hwaiting.2⟩
  answered hstage := by
    obtain ⟨hstatus, hdue⟩ | ⟨hstatus, hdue, hclosed⟩ := h.answered hstage
    · exact .inl ⟨hstatus, fun reply hreply => hsent (hdue reply hreply)⟩
    · exact .inr ⟨hstatus, hdue, hread hclosed⟩

/-- A message is answered as before if nothing has happened to its session. -/
lemma Fits.of_port {number : PostingNumber} {posting : Posting} {id : String} {outbox : Outbox}
    (h : journal.Fits number posting id outbox)
    (hconfig : journal'.scene.config = journal.scene.config)
    (hport : journal'.scene.ports[posting.session]? = some ⟨id, .sse outbox⟩)
    (hticket : journal.scene.nextTicket ≤ journal'.scene.nextTicket)
    (hsent : journal.sent ⊆ journal'.sent) : journal'.Fits number posting id outbox :=
  h.mono hconfig hport (fun _ hline => hline) (fun hread => hread) hticket hsent

/-! ### Messages that go on -/

lemma getElem?_set_cases {α : Type} {as : List α} {number other : Nat} {a found : α}
    (h : (as.set number a)[other]? = some found) :
    other = number ∧ found = a ∨ other ≠ number ∧ as[other]? = some found := by
  rw [List.getElem?_set] at h
  split_ifs at h with heq hlt
  · exact .inl ⟨heq.symm, (Option.some.inj h).symm⟩
  · exact .inr ⟨Ne.symm heq, h⟩

/-- A session has one id and one outbox. -/
lemma port_inj {scene : Scene} {number : SessionNumber} {id id' : String} {outbox outbox' : Outbox}
    (h : scene.ports[number]? = some ⟨id, .sse outbox⟩)
    (h' : scene.ports[number]? = some ⟨id', .sse outbox'⟩) : id = id' ∧ outbox = outbox' := by
  rw [h, Option.some.injEq, Port.mk.injEq, Surface.sse.injEq] at h'
  exact h'

/-- How a message goes on: its stage before and after, what becomes of the outbox of its session,
and the reply that comes into it, if one does. The ticket is the next to be given out. -/
inductive Moves (ticket : Ticket) (outbox : Outbox) :
    Stage → Stage → Outbox → Option Response → Prop
  | heard (answer : Answer) : Moves ticket outbox .found (.ofAnswer answer) outbox none
  | refused {reply : Response} (hread : outbox.isRead = false) :
      Moves ticket outbox (.owing reply) (.answered (some reply) Stage.gone) outbox none
  | pushed {reply : Response} (hroom : outbox.hasRoom = true) :
      Moves ticket outbox (.owing reply) (.answered (some reply) Stage.taken) (outbox.push reply)
        (some reply)
  | linedUp {reply : Response} (hread : outbox.isRead = true) :
      Moves ticket outbox (.owing reply) (.waiting ticket reply) (outbox.lineUp ticket reply) none
  | movedIn {waits : Ticket} {reply : Response} {line : List (Ticket × Response)}
      (hline : outbox.line = (waits, reply) :: line) (hroom : outbox.hasRoom = true) :
      Moves ticket outbox (.waiting waits reply) (.answered (some reply) Stage.taken)
        ({ outbox with line }.push reply) (some reply)
  | left {waits : Ticket} {reply : Response} (hmem : (waits, reply) ∈ outbox.line) :
      Moves ticket outbox (.waiting waits reply) (.abandoned reply) (outbox.abandon waits) none

namespace Moves

variable {ticket : Ticket} {outbox outbox' : Outbox} {before after : Stage}
  {news : Option Response}

lemma unanswered (h : Moves ticket outbox before after outbox' news) (due : Option Response)
    (response : HttpResponse) : before ≠ .answered due response := by
  cases h <;> nofun

lemma waiting_eq (h : Moves ticket outbox before after outbox' news) {ticket' : Ticket}
    {reply : Response} (hafter : after = .waiting ticket' reply) : ticket' = ticket := by
  cases h with
  | heard answer => cases answer <;> cases hafter
  | linedUp => exact (Stage.waiting.inj hafter).1.symm
  | refused | pushed | movedIn | left => cases hafter

/-- A message is answered for what becomes of its reply. -/
lemma answered (h : Moves ticket outbox before after outbox' news) {due : Option Response}
    {response : HttpResponse} (hafter : after = .answered due response) :
    response.status = 202 ∧ due = news ∨
      response.status = 410 ∧ due ≠ none ∧ outbox.isRead = false := by
  cases h with
  | heard answer =>
    cases answer <;> cases hafter
    exact .inl ⟨rfl, rfl⟩
  | refused hread =>
    cases hafter
    exact .inr ⟨rfl, nofun, hread⟩
  | pushed | movedIn =>
    cases hafter
    exact .inl ⟨rfl, rfl⟩
  | linedUp | left => cases hafter

/-- A reply comes into an outbox only if there is room, and with that its message is answered. -/
lemma of_news (h : Moves ticket outbox before after outbox' news) {reply : Response}
    (hnews : news = some reply) :
    outbox.hasRoom = true ∧ ∃ response, after = .answered (some reply) response ∧
      response.status = 202 := by
  cases h with
  | heard | refused | linedUp | left => cases hnews
  | pushed hroom =>
    cases hnews
    exact ⟨hroom, _, rfl, rfl⟩
  | movedIn hline hroom =>
    cases hnews
    exact ⟨hroom, _, rfl, rfl⟩

lemma capacity_eq (h : Moves ticket outbox before after outbox' news) :
    outbox'.capacity = outbox.capacity := by
  cases h <;> rfl

lemma isRead_eq (h : Moves ticket outbox before after outbox' news) :
    outbox'.isRead = outbox.isRead := by
  cases h <;> rfl

/-- A reply that comes into the outbox is the last there. -/
lemma queue_eq (h : Moves ticket outbox before after outbox' news) :
    outbox'.queue = outbox.queue ++ news.toList := by
  cases h <;> simp [Outbox.push, Outbox.lineUp, Outbox.abandon]

/-- The replies in line are those that stood there before, other than that of the message that goes
on, and the one that has to wait now. -/
lemma mem_line_iff (h : Moves ticket outbox before after outbox' news)
    (hnodup : (outbox.line.map Prod.fst).Nodup) (ticket' : Ticket) (reply' : Response) :
    (ticket', reply') ∈ outbox'.line ↔ after = .waiting ticket' reply' ∨
      (ticket', reply') ∈ outbox.line ∧ before ≠ .waiting ticket' reply' := by
  cases h with
  | heard answer => cases answer <;> simp [Stage.ofAnswer]
  | refused hread => simp
  | pushed hroom => simp [Outbox.push]
  | linedUp hread =>
    simp only [Outbox.lineUp, List.mem_append, List.mem_singleton, Prod.mk.injEq,
      Stage.waiting.injEq, ne_eq, reduceCtorEq, not_false_eq_true, and_true, @eq_comm _ ticket',
      @eq_comm _ reply']
    exact or_comm
  | @movedIn waits reply line hline hroom =>
    rw [hline, List.map_cons, List.nodup_cons] at hnodup
    have hother (hmem : (ticket', reply') ∈ line) : waits ≠ ticket' := by
      rintro rfl
      exact hnodup.1 (List.mem_map.2 ⟨_, hmem, rfl⟩)
    simp only [Outbox.push, hline, List.mem_cons, reduceCtorEq, false_or, Prod.mk.injEq, ne_eq,
      Stage.waiting.injEq]
    grind
  | @left waits reply hmem =>
    have hsame (hmem' : (ticket', reply') ∈ outbox.line) (hticket : waits = ticket') :
        reply = reply' :=
      congrArg Prod.snd (List.inj_on_of_nodup_map hnodup hmem hmem' hticket)
    simp only [Outbox.abandon, List.mem_filter, bne_iff_ne, reduceCtorEq, false_or, ne_eq,
      Stage.waiting.injEq]
    grind

lemma line_nodup (h : Moves ticket outbox before after outbox' news)
    (hnodup : (outbox.line.map Prod.fst).Nodup) (hnew : ticket ∉ outbox.line.map Prod.fst) :
    (outbox'.line.map Prod.fst).Nodup := by
  cases h with
  | heard | refused | pushed => exact hnodup
  | linedUp =>
    rw [Outbox.lineUp, List.map_append]
    exact hnodup.append (List.nodup_singleton _) (by simpa using hnew)
  | movedIn hline hroom =>
    rw [hline, List.map_cons, List.nodup_cons] at hnodup
    exact hnodup.2
  | left hmem => exact hnodup.sublist (List.filter_sublist.map _)

lemma line_eq_nil (h : Moves ticket outbox before after outbox' news)
    (hline : outbox.line = []) (hread : outbox.isRead = false) : outbox'.line = [] := by
  cases h with
  | heard | refused | pushed => exact hline
  | linedUp hread' => rw [hread] at hread'; cases hread'
  | movedIn hline' hroom => rw [hline] at hline'; cases hline'
  | left hmem => rw [Outbox.abandon, hline]; rfl

end Moves

/-- A message goes on, and with it the outbox of its session changes. -/
def move (journal : Journal) (number : PostingNumber) (posting : Posting) (stage : Stage)
    (outbox : Outbox) (news : Option Response) (nextTicket : Ticket) : Journal where
  scene := { journal.scene.setOutbox posting.session outbox with nextTicket }
  postings := journal.postings.set number { posting with stage }
  sent := journal.sent ++ (news.map (SentReply.mk number posting.session)).toList
  frames := journal.frames

section Move

variable {number : PostingNumber} {posting : Posting} {stage : Stage} {id : String}
  {outbox outbox' : Outbox} {news : Option Response} {nextTicket : Ticket}

/-- A message may go on without the outbox of its session. -/
lemma move_eq (hport : journal.scene.ports[posting.session]? = some ⟨id, .sse outbox⟩) :
    journal.move number posting stage outbox none journal.scene.nextTicket =
      { journal with postings := journal.postings.set number { posting with stage } } := by
  rw [move, Scene.setOutbox_eq_self hport]
  simp

lemma sentTo_move_self :
    (journal.move number posting stage outbox' news nextTicket).sentTo posting.session =
      journal.sentTo posting.session ++ news.toList := by
  cases news <;> simp [sentTo, move]

lemma sentTo_move_ne {other : SessionNumber} (h : other ≠ posting.session) :
    (journal.move number posting stage outbox' news nextTicket).sentTo other =
      journal.sentTo other := by
  cases news <;> simp [sentTo, move, h.symm]

/-- The next ticket is one that nobody in line has. -/
lemma Sound.nextTicket_notMem (h : journal.Sound) {session : SessionNumber}
    (hport : journal.scene.ports[session]? = some ⟨id, .sse outbox⟩) :
    journal.scene.nextTicket ∉ outbox.line.map Prod.fst := by
  intro hmem
  obtain ⟨⟨ticket, reply⟩, hmem, heq⟩ := List.mem_map.1 hmem
  obtain ⟨waiter, arrival, hget⟩ := (h.holds hport).waits hmem
  obtain ⟨_, _, hfits⟩ := h.fits hget
  exact (hfits.waiting rfl).1.ne heq

lemma getElem?_postings_move_self (hposting : journal.postings[number]? = some posting) :
    (journal.move number posting stage outbox' news nextTicket).postings[number]? =
      some { posting with stage } :=
  List.getElem?_set_self (List.getElem?_eq_some_iff.1 hposting).1

/-- The other messages are as they were. -/
lemma getElem?_postings_move (hposting : journal.postings[number]? = some posting)
    {other : PostingNumber} {found : Posting} (hget : journal.postings[other]? = some found)
    (hne : found ≠ posting) :
    (journal.move number posting stage outbox' news nextTicket).postings[other]? = some found := by
  rw [move, List.getElem?_set_ne, hget]
  rintro rfl
  exact hne (Option.some.inj (hget.symm.trans hposting))

lemma Moves.holds
    (hmoves : Moves journal.scene.nextTicket outbox posting.stage stage outbox' news)
    (hposting : journal.postings[number]? = some posting)
    (hholds : journal.Holds posting.session outbox)
    (hnew : journal.scene.nextTicket ∉ outbox.line.map Prod.fst) :
    (journal.move number posting stage outbox' news nextTicket).Holds posting.session outbox' where
  capacity_eq := hmoves.capacity_eq.trans hholds.capacity_eq
  length_le := by
    rw [hmoves.queue_eq]
    cases hnews : news with
    | none => simpa using hholds.length_le
    | some reply =>
      have hroom := Outbox.hasRoom_iff.1 (hmoves.of_news hnews).1
      rw [hholds.capacity_eq] at hroom
      simpa using hroom
  line_nodup := hmoves.line_nodup hholds.line_nodup hnew
  waits {ticket reply} hmem := by
    obtain rfl | ⟨hmem, hstage⟩ := (hmoves.mem_line_iff hholds.line_nodup _ _).1 hmem
    · exact ⟨number, posting.arrival, getElem?_postings_move_self hposting⟩
    · obtain ⟨waiter, arrival, hget⟩ := hholds.waits hmem
      exact ⟨waiter, arrival, getElem?_postings_move hposting hget fun heq => hstage (heq ▸ rfl)⟩
  line_eq_nil hread :=
    have hread := hmoves.isRead_eq.symm.trans hread
    hmoves.line_eq_nil (hholds.line_eq_nil hread) hread

namespace Sound

variable (h : journal.Sound)
  (hmoves : Moves journal.scene.nextTicket outbox posting.stage stage outbox' news)
  (hposting : journal.postings[number]? = some posting)
  (hport : journal.scene.ports[posting.session]? = some ⟨id, .sse outbox⟩)

include h hmoves hport in
/-- A reply that is sent comes last in what a stream has to tell. -/
lemma tells_move {k : StreamNumber} {stream : EventStream}
    (hstream : journal.scene.streams[k]? = some stream) : ∃ id outbox taken,
      (journal.move number posting stage outbox' news nextTicket).Tells k stream id outbox
        taken := by
  obtain ⟨id', found, taken, htells⟩ := h.tells hstream
  by_cases hsession : stream.session = posting.session
  · obtain ⟨rfl, rfl⟩ := port_inj hport (hsession ▸ htells.port_eq)
    refine ⟨id, outbox', taken, hsession ▸ Scene.getElem?_setOutbox_self hport outbox',
      hmoves.isRead_eq.trans htells.isRead_eq, htells.events_eq, htells.taken_eq_nil, ?_,
      fun hopen => ?_⟩
    · rw [hsession, sentTo_move_self, ← hsession]
      exact htells.taken_prefix.trans (List.prefix_append _ _)
    · rw [hsession, sentTo_move_self, ← hsession, ← htells.taken_append hopen, hmoves.queue_eq,
        List.append_assoc]
  · exact ⟨id', found, taken, htells.of_eq rfl (Scene.getElem?_setOutbox_ne hsession outbox') rfl
      (sentTo_move_ne hsession)⟩

include h hmoves hposting hport in
lemma holds_move {session : SessionNumber} {id' : String} {found : Outbox}
    (hport' : (journal.move number posting stage outbox' news nextTicket).scene.ports[session]? =
      some ⟨id', .sse found⟩) :
    (journal.move number posting stage outbox' news nextTicket).Holds session found := by
  by_cases hsession : session = posting.session
  · subst hsession
    obtain ⟨-, rfl⟩ := port_inj (Scene.getElem?_setOutbox_self hport outbox') hport'
    exact hmoves.holds hposting (h.holds hport) (h.nextTicket_notMem hport)
  · have hsame := (Scene.getElem?_setOutbox_ne hsession outbox').symm.trans hport'
    refine (h.holds hsame).of_postings fun _ hget => ?_
    exact getElem?_postings_move hposting hget fun heq => hsession (heq ▸ rfl)

include h hmoves hposting hport in
/-- The message that goes on is answered for what becomes of its reply, and the others are as
before. -/
lemma fits_move (hle : journal.scene.nextTicket ≤ nextTicket)
    (hlt : ∀ ticket reply, stage = .waiting ticket reply → ticket < nextTicket)
    {other : PostingNumber} {found : Posting}
    (hget : (journal.move number posting stage outbox' news nextTicket).postings[other]? =
      some found) : ∃ id outbox,
      (journal.move number posting stage outbox' news nextTicket).Fits other found id outbox := by
  have hnodup := (h.holds hport).line_nodup
  obtain ⟨rfl, rfl⟩ | ⟨hother, hget⟩ := getElem?_set_cases hget
  · obtain ⟨id', before, hfits⟩ := h.fits hposting
    obtain ⟨rfl, rfl⟩ := port_inj hport hfits.port_eq
    refine ⟨id, outbox', Scene.getElem?_setOutbox_self hport outbox', hfits.posts,
      fun hstage => ⟨hlt _ _ hstage, (hmoves.mem_line_iff hnodup _ _).2 (.inl hstage)⟩,
      fun {due response} hstage => ?_⟩
    obtain ⟨hstatus, rfl⟩ | ⟨hstatus, hdue, hread⟩ := hmoves.answered hstage
    · refine .inl ⟨hstatus, fun reply hreply => ?_⟩
      obtain rfl := Option.mem_def.1 hreply
      exact List.mem_append_right _ (List.mem_singleton.2 rfl)
    · exact .inr ⟨hstatus, hdue, hmoves.isRead_eq.trans hread⟩
  · obtain ⟨id', before, hfound⟩ := h.fits hget
    by_cases hsession : found.session = posting.session
    · obtain ⟨rfl, rfl⟩ := port_inj hport (hsession ▸ hfound.port_eq)
      refine ⟨id, outbox', hfound.mono rfl
        (hsession ▸ Scene.getElem?_setOutbox_self hport outbox')
        (fun hstage hline =>
          (hmoves.mem_line_iff hnodup _ _).2 (.inr ⟨hline, fun hstage' => ?_⟩))
        (fun hread => hmoves.isRead_eq.trans hread) hle (List.subset_append_left _ _)⟩
      exact hother (h.tickets_inj hget hposting hstage hstage')
    · exact ⟨id', before, hfound.of_port rfl
        ((Scene.getElem?_setOutbox_ne hsession outbox').trans hfound.port_eq) hle
        (List.subset_append_left _ _)⟩

include h hmoves in
/-- A ticket that is given out is one that no message has. -/
lemma tickets_inj_move {p p' : PostingNumber} {found found' : Posting} {ticket : Ticket}
    {reply reply' : Response}
    (hget : (journal.move number posting stage outbox' news nextTicket).postings[p]? = some found)
    (hget' : (journal.move number posting stage outbox' news nextTicket).postings[p']? =
      some found')
    (hstage : found.stage = .waiting ticket reply)
    (hstage' : found'.stage = .waiting ticket reply') : p = p' := by
  have hnew {q : PostingNumber} {other : Posting} {reply : Response}
      (hq : journal.postings[q]? = some other) (hother : other.stage = .waiting ticket reply) :
      ticket ≠ journal.scene.nextTicket := by
    obtain ⟨_, _, hfound⟩ := h.fits hq
    exact (hfound.waiting hother).1.ne
  obtain ⟨rfl, rfl⟩ | ⟨-, hfound⟩ := getElem?_set_cases hget <;>
    obtain ⟨rfl, rfl⟩ | ⟨-, hfound'⟩ := getElem?_set_cases hget'
  · rfl
  · exact absurd (hmoves.waiting_eq hstage) (hnew hfound' hstage')
  · exact absurd (hmoves.waiting_eq hstage') (hnew hfound hstage)
  · exact h.tickets_inj hfound hfound' hstage hstage'

include h hmoves hposting in
lemma sent_answered_move {entry : SentReply}
    (hentry : entry ∈ (journal.move number posting stage outbox' news nextTicket).sent) :
    ∃ arrival response,
      (journal.move number posting stage outbox' news nextTicket).postings[entry.posting]? =
          some ⟨arrival, entry.session, .answered (some entry.reply) response⟩ ∧
        response.status = 202 := by
  obtain hentry | hentry := List.mem_append.1 hentry
  · obtain ⟨arrival, response, hget, hstatus⟩ := h.sent_answered entry hentry
    refine ⟨arrival, response, getElem?_postings_move hposting hget fun heq => ?_, hstatus⟩
    exact hmoves.unanswered _ _ (congrArg Posting.stage heq.symm)
  · obtain ⟨reply, hnews, rfl⟩ := Option.map_eq_some_iff.1 (Option.mem_toList.1 hentry)
    obtain ⟨-, response, rfl, hstatus⟩ := hmoves.of_news hnews
    exact ⟨posting.arrival, response, getElem?_postings_move_self hposting, hstatus⟩

include h hmoves hposting in
/-- A message whose reply is sent had no reply sent before. -/
lemma sent_nodup_move :
    ((journal.move number posting stage outbox' news nextTicket).sent.map
      SentReply.posting).Nodup := by
  rw [Journal.move, List.map_append, List.nodup_append]
  refine ⟨h.sent_nodup, by cases news <;> simp, fun sent hsent new hnew hsame => ?_⟩
  obtain ⟨entry, hentry, rfl⟩ := List.mem_map.1 hsent
  obtain ⟨entry', hentry', rfl⟩ := List.mem_map.1 hnew
  obtain ⟨reply, -, rfl⟩ := Option.map_eq_some_iff.1 (Option.mem_toList.1 hentry')
  obtain ⟨arrival, response, hget, -⟩ := h.sent_answered entry hentry
  rw [hsame, hposting, Option.some.injEq] at hget
  exact hmoves.unanswered _ _ (by rw [hget])

include h hmoves hposting hport in
/-- A journal stays sound when a message goes on. -/
theorem move (hle : journal.scene.nextTicket ≤ nextTicket)
    (hlt : ∀ ticket reply, stage = .waiting ticket reply → ticket < nextTicket) :
    (journal.move number posting stage outbox' news nextTicket).Sound where
  tells := h.tells_move hmoves hport
  streams_inj := h.streams_inj
  holds := h.holds_move hmoves hposting hport
  fits := h.fits_move hmoves hposting hport hle hlt
  tickets_inj := h.tickets_inj_move hmoves
  sent_answered _ := h.sent_answered_move hmoves hposting
  ids_nodup := (Scene.ids_setOutbox _ _).symm ▸ h.ids_nodup
  sent_nodup := h.sent_nodup_move hmoves hposting
  frames_lt := h.frames_lt

end Sound

/-- A ticket in line is that of a message of the session. -/
lemma Sound.session_eq_of_waiting (h : journal.Sound) {session : SessionNumber}
    (hport : journal.scene.ports[session]? = some ⟨id, .sse outbox⟩) {ticket : Ticket}
    (hticket : ticket ∈ outbox.line.map Prod.fst) {waiter : PostingNumber} {posting : Posting}
    {reply : Response} (hget : journal.postings[waiter]? = some posting)
    (hstage : posting.stage = .waiting ticket reply) : posting.session = session := by
  obtain ⟨⟨_, reply'⟩, hmem, rfl⟩ := List.mem_map.1 hticket
  obtain ⟨waiter', arrival, hget'⟩ := (h.holds hport).waits hmem
  obtain rfl := h.tickets_inj hget hget' hstage rfl
  rw [hget, Option.some.injEq] at hget'
  rw [hget']

/-- When a sender goes away only the outbox of the session changes for which the reply was. -/
lemma Sound.scene_abandon (h : journal.Sound) {session : SessionNumber} {ticket : Ticket}
    {reply : Response} (hport : journal.scene.ports[session]? = some ⟨id, .sse outbox⟩)
    (hmem : (ticket, reply) ∈ outbox.line) :
    journal.scene.abandon ticket = journal.scene.setOutbox session (outbox.abandon ticket) := by
  have hports : (journal.scene.abandon ticket).ports =
      (journal.scene.setOutbox session (outbox.abandon ticket)).ports := by
    refine List.ext_getElem? fun other => ?_
    by_cases hother : other = session
    · subst hother
      rw [Scene.getElem?_setOutbox_self hport, Scene.abandon, List.getElem?_map, hport]
      rfl
    · rw [Scene.getElem?_setOutbox_ne hother, Scene.abandon, List.getElem?_map]
      cases hport' : journal.scene.ports[other]? with
      | none => rfl
      | some port =>
        obtain ⟨id', surface⟩ := port
        cases surface with
        | stdio => rfl
        | http => rfl
        | sse outbox' =>
          have hkept : outbox'.abandon ticket = outbox' := by
            rw [Outbox.abandon, List.filter_eq_self.2]
            rintro ⟨ticket', reply'⟩ hmem'
            obtain ⟨waiter, arrival, hget⟩ := (h.holds hport').waits hmem'
            refine bne_iff_ne.2 ?_
            rintro rfl
            exact hother (h.session_eq_of_waiting hport (List.mem_map_of_mem hmem) hget rfl)
          simp only [Option.map_some, hkept]
  exact congrArg (fun ports => ({ journal.scene with ports } : Scene)) hports

end Move

/-! ### Messages and clients that come in -/

lemma getElem?_concat_cases {α : Type} {as : List α} {number : Nat} {a found : α}
    (h : (as ++ [a])[number]? = some found) :
    as[number]? = some found ∨ number = as.length ∧ found = a := by
  rw [List.getElem?_append] at h
  split_ifs at h with hlt
  · exact .inl h
  · obtain ⟨hlt', hget⟩ := List.getElem?_eq_some_iff.1 h
    have hnumber : number = as.length := by
      simp only [List.length_cons, List.length_nil] at hlt'
      omega
    subst hnumber
    simp only [Nat.sub_self, List.getElem_cons_zero] at hget
    exact .inr ⟨rfl, hget.symm⟩

lemma getElem?_concat_of_getElem? {α : Type} {as : List α} {number : Nat} {a : α}
    (h : as[number]? = some a) (more : List α) : (as ++ more)[number]? = some a := by
  rw [List.getElem?_append_left (List.getElem?_eq_some_iff.1 h).1, h]

/-- A journal stays sound when a message reaches a session. -/
lemma Sound.post (h : journal.Sound) {session : SessionNumber} {id : String} {outbox : Outbox}
    (hport : journal.scene.ports[session]? = some ⟨id, .sse outbox⟩) {arrival : Arrival}
    (hposts : arrival.PostsForStream journal.scene.config id) :
    Sound { journal with postings := journal.postings ++ [⟨arrival, session, .found⟩] } where
  tells hstream := by
    obtain ⟨id', found, taken, htells⟩ := h.tells hstream
    exact ⟨id', found, taken, htells.of_eq rfl rfl rfl rfl⟩
  streams_inj := h.streams_inj
  holds hport' :=
    (h.holds hport').of_postings fun _ hget => getElem?_concat_of_getElem? hget _
  fits hget := by
    obtain hget | ⟨rfl, rfl⟩ := getElem?_concat_cases hget
    · obtain ⟨id', found, hfits⟩ := h.fits hget
      exact ⟨id', found, hfits.of_port rfl hfits.port_eq le_rfl (List.Subset.refl _)⟩
    · exact ⟨id, outbox, hport, hposts, nofun, nofun⟩
  tickets_inj hget hget' hstage hstage' := by
    obtain hget | ⟨rfl, rfl⟩ := getElem?_concat_cases hget
    · obtain hget' | ⟨rfl, rfl⟩ := getElem?_concat_cases hget'
      · exact h.tickets_inj hget hget' hstage hstage'
      · cases hstage'
    · cases hstage
  sent_answered entry hentry := by
    obtain ⟨arrival, response, hget, hstatus⟩ := h.sent_answered entry hentry
    exact ⟨arrival, response, getElem?_concat_of_getElem? hget _, hstatus⟩
  ids_nodup := h.ids_nodup
  sent_nodup := h.sent_nodup
  frames_lt := h.frames_lt

/-- A journal stays sound when a session is opened, with its reader gone already if it is one of a
stream. -/
lemma Sound.enter (h : journal.Sound) {port : Port} (hfresh : port.id ∉ journal.scene.ids)
    (hsurface : ∀ outbox, port.surface = .sse outbox →
      outbox.capacity = outboxCapacity ∧ outbox.queue = [] ∧ outbox.line = []) :
    Sound { journal with
      scene := { journal.scene with ports := journal.scene.ports ++ [port] } } where
  tells hstream := by
    obtain ⟨id', found, taken, htells⟩ := h.tells hstream
    have hport := getElem?_concat_of_getElem? htells.port_eq [port]
    exact ⟨id', found, taken, htells.of_eq rfl (hport.trans htells.port_eq.symm) rfl rfl⟩
  streams_inj := h.streams_inj
  holds hport := by
    obtain hport | ⟨-, rfl⟩ := getElem?_concat_cases hport
    · exact (h.holds hport).of_postings fun _ hget => hget
    · obtain ⟨hcapacity, hqueue, hline⟩ := hsurface _ rfl
      exact ⟨hcapacity, by simp [hqueue], by simp [hline], by simp [hline], fun _ => hline⟩
  fits hget := by
    obtain ⟨id', found, hfits⟩ := h.fits hget
    exact ⟨id', found, hfits.of_port rfl (getElem?_concat_of_getElem? hfits.port_eq _) le_rfl
      (List.Subset.refl _)⟩
  tickets_inj := h.tickets_inj
  sent_answered := h.sent_answered
  ids_nodup := by
    rw [Scene.ids, List.map_append]
    exact h.ids_nodup.append (List.nodup_singleton _) (List.disjoint_singleton.2 hfresh)
  sent_nodup := h.sent_nodup
  frames_lt := h.frames_lt

/-- A journal stays sound when a stream is opened for a session with which nothing has happened
yet. -/
lemma Sound.connect (h : journal.Sound) {session : SessionNumber} {id : String} (time : Duration)
    (hport : journal.scene.ports[session]? = some ⟨id, .sse (.ofCapacity outboxCapacity)⟩)
    (hstreams : ∀ stream ∈ journal.scene.streams, stream.session ≠ session)
    (hpostings : ∀ posting ∈ journal.postings, posting.session ≠ session) :
    Sound { journal with
      scene := { journal.scene with
        streams := journal.scene.streams ++ [⟨session, false, time, true⟩] } } where
  tells {number stream} hstream := by
    obtain hstream | ⟨rfl, rfl⟩ := getElem?_concat_cases hstream
    · obtain ⟨id', found, taken, htells⟩ := h.tells hstream
      exact ⟨id', found, taken, htells.of_eq rfl rfl rfl rfl⟩
    · have hframes : journal.framesOf journal.scene.streams.length = [] := by
        rw [framesOf, List.filter_eq_nil_iff.2, List.map_nil]
        exact fun frame hframe => by simpa using (h.frames_lt frame hframe).ne
      have hsent : journal.sentTo session = [] := by
        rw [sentTo, List.filter_eq_nil_iff.2, List.map_nil]
        intro entry hentry
        obtain ⟨arrival, response, hget, -⟩ := h.sent_answered entry hentry
        simpa using hpostings _ (List.mem_of_getElem? hget)
      exact ⟨id, .ofCapacity outboxCapacity, [], hport, rfl, congrArg eventsIn hframes,
        fun _ => rfl, List.nil_prefix, fun _ => hsent.symm⟩
  streams_inj hstream hstream' hsession := by
    obtain hstream | ⟨rfl, rfl⟩ := getElem?_concat_cases hstream
    · obtain hstream' | ⟨rfl, rfl⟩ := getElem?_concat_cases hstream'
      · exact h.streams_inj hstream hstream' hsession
      · exact absurd hsession (hstreams _ (List.mem_of_getElem? hstream))
    · obtain hstream' | ⟨rfl, rfl⟩ := getElem?_concat_cases hstream'
      · exact absurd hsession.symm (hstreams _ (List.mem_of_getElem? hstream'))
      · rfl
  holds hport := (h.holds hport).of_postings fun _ hget => hget
  fits hget := by
    obtain ⟨id', found, hfits⟩ := h.fits hget
    exact ⟨id', found, hfits.of_port rfl hfits.port_eq le_rfl (List.Subset.refl _)⟩
  tickets_inj := h.tickets_inj
  sent_answered := h.sent_answered
  ids_nodup := h.ids_nodup
  sent_nodup := h.sent_nodup
  frames_lt frame hframe := by
    rw [List.length_append]
    exact (h.frames_lt frame hframe).trans_le (Nat.le_add_right _ _)

end Journal

end WorldClock
