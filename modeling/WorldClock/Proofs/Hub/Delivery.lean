import WorldClock.Proofs.Hub.Change
import WorldClock.Proofs.Hub.Lifecycle
/-!
# Delivery of replies

Every reply to a message that is posted for a stream comes into the outbox of its session once, and
is read there after those that came before it, unless the reader goes away. Who posts a message
learns what became of the reply to it.
-/

namespace WorldClock

namespace Traffic

variable {config : Config} {clock : Instant} {zones : ZoneTable} {acts : List TrafficAct}
  {act : TrafficAct} {number : PostingNumber} {posting : Posting} {journal journal' : Journal}

/-! ### Where messages come from -/

/-- A message came in by a request that reached its session. If it has been handled, then what came
of it is what the server made of it at that time. -/
structure Traces (config : Config) (clock : Instant) (zones : ZoneTable) (acts : List TrafficAct)
    (number : PostingNumber) (posting : Posting) : Prop where
  posted : ∃ before later found, acts = before ++ .request posting.arrival :: later ∧
    ((start config clock zones).after before).postings.length = number ∧
    ((start config clock zones).after before).hub.addressee? posting.arrival =
      some (posting.session, found)
  handled : posting.stage = .found ∨
    ∃ before later, acts = before ++ .proceed number :: later ∧
      ((start config clock zones).after before).postings[number]? =
        some { posting with stage := .found } ∧
      posting.stage.answer? = ((start config clock zones).after before).answerTo? posting

namespace Traces

lemma concat (h : Traces config clock zones acts number posting) (act : TrafficAct) :
    Traces config clock zones (acts ++ [act]) number posting where
  posted := by
    obtain ⟨before, later, found, rfl, hposted⟩ := h.posted
    exact ⟨before, later ++ [act], found, by simp, hposted⟩
  handled := by
    obtain hfound | ⟨before, later, rfl, hhandled⟩ := h.handled
    · exact .inl hfound
    · exact .inr ⟨before, later ++ [act], by simp, hhandled⟩

/-- What came of a message does not change when it goes on. -/
lemma of_answer {stage : Stage} (h : Traces config clock zones acts number { posting with stage })
    (hanswer : stage.answer? = posting.stage.answer?) :
    Traces config clock zones acts number posting where
  posted := h.posted
  handled := by
    obtain hfound | ⟨before, later, hacts, hposting, hheard⟩ := h.handled
    · obtain rfl : stage = .found := hfound
      exact .inl (answer?_eq_none_iff.1 hanswer.symm)
    · exact .inr ⟨before, later, hacts, hposting, hanswer.symm.trans hheard⟩

end Traces

/-! ### Runs -/

/-- What holds after each act. -/
structure Kept (config : Config) (clock : Instant) (zones : ZoneTable) (acts : List TrafficAct)
    (journal : Journal) : Prop where
  sound : journal.Sound
  config_eq : journal.scene.config = config
  mem_freshIds : ∀ id ∈ journal.scene.ids, id ∈ acts.filterMap TrafficAct.freshId?
  traces : ∀ {number : PostingNumber} {posting : Posting},
    journal.postings[number]? = some posting → Traces config clock zones acts number posting

namespace Kept

lemma concat (h : Kept config clock zones acts journal) (act : TrafficAct) :
    Kept config clock zones (acts ++ [act]) journal where
  sound := h.sound
  config_eq := h.config_eq
  mem_freshIds id hid := by
    rw [List.filterMap_append]
    exact List.mem_append_left _ (h.mem_freshIds id hid)
  traces hget := (h.traces hget).concat act

/-- What is kept after some acts is kept by each change that the last one makes. -/
lemma change (h : Kept config clock zones (acts ++ [act]) journal)
    (hchange : ((start config clock zones).after acts).Change act journal journal') :
    Kept config clock zones (acts ++ [act]) journal' where
  sound := hchange.sound h.sound
  config_eq := hchange.config_eq.trans h.config_eq
  mem_freshIds id hid := by
    obtain hid | hid := hchange.mem_ids hid
    · exact h.mem_freshIds id hid
    · rw [List.filterMap_append]
      exact List.mem_append_right _ (List.mem_filterMap.2 ⟨act, List.mem_singleton_self _, hid⟩)
  traces {number posting} hget := by
    obtain ⟨stage, hbefore, hanswer | ⟨rfl, hfound, hanswer⟩⟩ |
      ⟨hfound, rfl, hnumber, haddressee⟩ := hchange.exists_posting hget
    · exact (h.traces hbefore).of_answer hanswer
    · exact ⟨(h.traces hbefore).posted, .inr ⟨acts, [], rfl, hfound, hanswer⟩⟩
    · obtain ⟨found, haddressee⟩ := haddressee
      exact ⟨⟨acts, [], found, rfl, hnumber, haddressee⟩, .inl hfound⟩

end Kept

/-- No id is given to two sessions by some acts. -/
abbrev FreshIds (acts : List TrafficAct) : Prop :=
  (acts.filterMap TrafficAct.freshId?).Nodup

lemma FreshIds.of_append {later : List TrafficAct} (h : FreshIds (acts ++ later)) :
    FreshIds acts := by
  rw [FreshIds, List.filterMap_append] at h
  exact h.of_append_left

lemma changes_of_kept (hfresh : FreshIds (acts ++ [act]))
    (h : Kept config clock zones acts ((start config clock zones).after acts).journal) :
    ((start config clock zones).after acts).Changes act
      ((start config clock zones).after acts).journal
      ((start config clock zones).after (acts ++ [act])).journal := by
  rw [after_concat]
  refine changes_step h.sound fun id hid hmem => ?_
  rw [FreshIds, List.filterMap_append, List.nodup_append] at hfresh
  exact hfresh.2.2 id (h.mem_freshIds id hmem) id
    (List.mem_filterMap.2 ⟨act, List.mem_singleton_self _, hid⟩) rfl

/-- What is kept holds however many acts there were. -/
theorem kept_after (config : Config) (clock : Instant) (zones : ZoneTable)
    (hfresh : FreshIds acts) :
    Kept config clock zones acts ((start config clock zones).after acts).journal := by
  induction acts using List.reverseRecOn with
  | nil => exact ⟨Journal.sound_start config clock zones, rfl, nofun, nofun⟩
  | append_singleton acts act ih =>
    have hkept := ih hfresh.of_append
    have hchanges := changes_of_kept hfresh hkept
    generalize ((start config clock zones).after (acts ++ [act])).journal = journal at hchanges
    induction hchanges with
    | refl => exact hkept.concat act
    | tail _ hchange ih => exact ih.change hchange

/-- What was sent stays sent, and comes before what is sent later. -/
lemma sent_prefix_append {later : List TrafficAct} (hfresh : FreshIds (acts ++ later)) :
    ((start config clock zones).after acts).sent <+:
      ((start config clock zones).after (acts ++ later)).sent := by
  induction later using List.reverseRecOn with
  | nil => rw [List.append_nil]
  | append_singleton later act ih =>
    rw [← List.append_assoc] at hfresh ⊢
    have hchanges := changes_of_kept hfresh (kept_after config clock zones hfresh.of_append)
    exact (ih hfresh.of_append).trans hchanges.sent_prefix

/-- A message that came in stays known. -/
lemma exists_stage_append {later : List TrafficAct} (hfresh : FreshIds (acts ++ later))
    (hget : ((start config clock zones).after acts).postings[number]? = some posting) :
    ∃ stage, ((start config clock zones).after (acts ++ later)).postings[number]? =
      some { posting with stage } := by
  induction later using List.reverseRecOn with
  | nil =>
    rw [List.append_nil]
    exact ⟨posting.stage, hget⟩
  | append_singleton later act ih =>
    rw [← List.append_assoc] at hfresh ⊢
    obtain ⟨_, hbefore⟩ := ih hfresh.of_append
    have hchanges := changes_of_kept hfresh (kept_after config clock zones hfresh.of_append)
    obtain ⟨stage, hstage⟩ := hchanges.exists_stage hbefore
    exact ⟨stage, hstage⟩

/-! ### Delivery -/

/-- What has been read on a stream is the announcement of its session and some replies. With those
that are still in the outbox, which are not too many, they are the replies that were sent to the
session; once the stream is closed, the others are lost. And the messages of the session are those
that were posted to its id. -/
structure Delivers (traffic : Traffic) (config : Config) (number : StreamNumber)
    (stream : EventStream) (session : Session) (outbox : Outbox) (taken : List Response) :
    Prop where
  session_eq : traffic.hub.sessions[stream.session]? = some session
  surface_eq : session.surface = .sse outbox
  events_eq : eventsIn (traffic.journal.framesOf number) =
    if stream.announced then
      eventText "endpoint" (endpointUrl config.publicUrl session.id) :: taken.map replyEvent
    else []
  taken_eq_nil : stream.announced = false → taken = []
  length_le : outbox.queue.length ≤ 64
  taken_append : stream.isOpen = true →
    taken ++ outbox.queue = traffic.journal.sentTo stream.session
  taken_prefix : taken <+: traffic.journal.sentTo stream.session
  posts_iff : ∀ posting ∈ traffic.postings,
    posting.session = stream.session ↔ posting.arrival.PostsForStream config session.id

/-- If a message is answered, then it is taken exactly if its reply was sent or none was due. If it
is not taken, its reply was not sent, and there is no open stream for it. -/
structure Settles (traffic : Traffic) (number : PostingNumber) (posting : Posting) : Prop where
  taken_iff : ∀ {due : Option Response} {response : HttpResponse},
    posting.stage = .answered due response →
      (response.status = 202 ↔
        ∀ reply ∈ due, ⟨number, posting.session, reply⟩ ∈ traffic.sent)
  gone : ∀ {due : Option Response} {response : HttpResponse},
    posting.stage = .answered due response → response.status ≠ 202 →
      response.status = 410 ∧ number ∉ traffic.sent.map SentReply.posting ∧
        ∀ stream ∈ traffic.hub.streams, stream.session = posting.session → stream.isOpen = false

variable {traffic : Traffic}

lemma exists_delivers (h : Kept config clock zones acts traffic.journal) {number : StreamNumber}
    {stream : EventStream} (hstream : traffic.hub.streams[number]? = some stream) :
    ∃ session outbox taken, traffic.Delivers config number stream session outbox taken := by
  obtain ⟨id, outbox, taken, htells⟩ := h.sound.tells hstream
  obtain ⟨session, hget, hsession⟩ := Sessions.exists_of_getElem?_ports htells.port_eq
  rw [Session.port, Port.mk.injEq] at hsession
  obtain ⟨rfl, hsurface⟩ := hsession
  refine ⟨session, outbox, taken, hget, hsurface, ?_, htells.taken_eq_nil,
    (h.sound.holds htells.port_eq).length_le, htells.taken_append, htells.taken_prefix,
    fun posting hmem => ?_⟩
  · rw [htells.events_eq, Journal.announcement, h.config_eq]
  obtain ⟨number', hposting⟩ := List.getElem?_of_mem hmem
  obtain ⟨id, found, hfits⟩ := h.sound.fits hposting
  have hposts := h.config_eq ▸ hfits.posts
  constructor
  · intro hsame
    obtain ⟨rfl, -⟩ := Journal.port_inj htells.port_eq (hsame ▸ hfits.port_eq)
    exact hposts
  · intro hposts'
    obtain rfl := hposts.id_unique hposts'
    -- No two sessions have the same id.
    have hid := Scene.getElem?_ids hfits.port_eq
    have hid' := Scene.getElem?_ids htells.port_eq
    exact (List.getElem?_inj (List.getElem?_eq_some_iff.1 hid).1 h.sound.ids_nodup).1
      (hid.trans hid'.symm)

/-- No two streams have sessions with the same id. -/
lemma streams_unique (h : Kept config clock zones acts traffic.journal) {k k' : StreamNumber}
    {stream stream' : EventStream} {session session' : Session}
    (hstream : traffic.hub.streams[k]? = some stream)
    (hstream' : traffic.hub.streams[k']? = some stream')
    (hget : traffic.hub.sessions[stream.session]? = some session)
    (hget' : traffic.hub.sessions[stream'.session]? = some session')
    (hid : session.id = session'.id) : k = k' := by
  have hport : traffic.hub.scene.ids[stream.session]? = some session.id :=
    @Scene.getElem?_ids traffic.hub.scene _ session.port (Sessions.getElem?_ports hget)
  have hport' : traffic.hub.scene.ids[stream'.session]? = some session'.id :=
    @Scene.getElem?_ids traffic.hub.scene _ session'.port (Sessions.getElem?_ports hget')
  refine h.sound.streams_inj hstream hstream' ?_
  rw [← hid] at hport'
  exact (List.getElem?_inj (List.getElem?_eq_some_iff.1 hport).1 h.sound.ids_nodup).1
    (hport.trans hport'.symm)

lemma settles (h : Kept config clock zones acts traffic.journal)
    (hposting : traffic.postings[number]? = some posting) : traffic.Settles number posting := by
  obtain ⟨id, outbox, hfits⟩ := h.sound.fits hposting
  have hsent {entry : SentReply} (hentry : entry ∈ traffic.sent)
      (hnumber : entry.posting = number) : ∃ response,
        posting.stage = .answered (some entry.reply) response ∧ response.status = 202 := by
    obtain ⟨arrival, response, hget, hstatus⟩ := h.sound.sent_answered entry hentry
    subst hnumber
    obtain rfl := Option.some.inj (hposting.symm.trans hget)
    exact ⟨response, rfl, hstatus⟩
  constructor
  · intro due response hstage
    constructor
    · intro hstatus
      obtain ⟨-, hdue⟩ | ⟨hgone, -⟩ := hfits.answered hstage
      · exact hdue
      · rw [hstatus] at hgone
        cases hgone
    · intro hdue
      obtain ⟨hstatus, -⟩ | ⟨hgone, hne, -⟩ := hfits.answered hstage
      · exact hstatus
      · obtain ⟨reply, hreply⟩ := Option.ne_none_iff_exists'.1 hne
        obtain ⟨response', hstage', hstatus⟩ := hsent (hdue reply hreply) rfl
        rw [hstage, Stage.answered.injEq] at hstage'
        rwa [hstage'.2]
  · intro due response hstage hstatus
    obtain ⟨htaken, -⟩ | ⟨hgone, -, hclosed⟩ := hfits.answered hstage
    · exact absurd htaken hstatus
    · refine ⟨hgone, fun hmem => ?_, fun stream hstream hsession => ?_⟩
      · obtain ⟨entry, hentry, hnumber⟩ := List.mem_map.1 hmem
        obtain ⟨response', hstage', hstatus'⟩ := hsent hentry hnumber
        rw [hstage, Stage.answered.injEq] at hstage'
        exact hstatus (hstage'.2 ▸ hstatus')
      · obtain ⟨other, hget⟩ := List.getElem?_of_mem hstream
        obtain ⟨id', outbox', taken, htells⟩ := h.sound.tells hget
        obtain ⟨rfl, rfl⟩ := Journal.port_inj hfits.port_eq (hsession ▸ htells.port_eq)
        exact htells.isRead_eq.symm.trans hclosed

/-- An entry of what was sent stands for a message that was answered for its reply. -/
lemma mem_sent_iff (h : Kept config clock zones acts traffic.journal) (entry : SentReply) :
    entry ∈ traffic.sent ↔ ∃ arrival response,
      traffic.postings[entry.posting]? =
          some ⟨arrival, entry.session, .answered (some entry.reply) response⟩ ∧
        response.status = 202 := by
  constructor
  · exact h.sound.sent_answered entry
  · rintro ⟨arrival, response, hget, hstatus⟩
    exact ((settles h hget).taken_iff rfl).1 hstatus entry.reply rfl

/-- Whatever has happened, what has been read on a stream begins with the event that announces its
session, which is that of no other stream. The replies that have been read since then, followed by
those that are still in the outbox, are those that were sent to the session (`Delivers`): those to
the messages that were posted to its id and answered for it, each one once, in the order in which
they were sent. What was due to a message is what the server made of it when it was handled
(`Traces`), and its sender learns whether that came into the outbox (`Settles`). No message gets
lost, and one that reaches no session is answered neither as taken nor as come too late. -/
theorem replies_delivered (config : Config) (clock : Instant) (zones : ZoneTable)
    (acts : List TrafficAct) (hfresh : FreshIds acts) :
    let traffic := (start config clock zones).after acts
    (∀ (number : StreamNumber) (stream : EventStream),
      traffic.hub.streams[number]? = some stream →
        ∃ session outbox taken, traffic.Delivers config number stream session outbox taken) ∧
    (∀ (number number' : StreamNumber) (stream stream' : EventStream) (session session' : Session),
      traffic.hub.streams[number]? = some stream → traffic.hub.streams[number']? = some stream' →
        traffic.hub.sessions[stream.session]? = some session →
          traffic.hub.sessions[stream'.session]? = some session' → session.id = session'.id →
            number = number') ∧
    (traffic.sent.map SentReply.posting).Nodup ∧
    (∀ entry, entry ∈ traffic.sent ↔ ∃ arrival response,
      traffic.postings[entry.posting]? =
          some ⟨arrival, entry.session, .answered (some entry.reply) response⟩ ∧
        response.status = 202) ∧
    (∀ before, before <+: acts → ((start config clock zones).after before).sent <+: traffic.sent) ∧
    (∀ (number : PostingNumber) (posting : Posting), traffic.postings[number]? = some posting →
      Traces config clock zones acts number posting ∧ traffic.Settles number posting) ∧
    (∀ before arrival later, acts = before ++ .request arrival :: later →
      ∀ session found, ((start config clock zones).after before).hub.addressee? arrival =
          some (session, found) →
        ∃ stage, traffic.postings[((start config clock zones).after before).postings.length]? =
          some ⟨arrival, session, stage⟩) ∧
    ∀ arrival : Arrival, traffic.hub.addressee? arrival = none →
      arrival.request.method = "POST" → arrival.path = "/messages" →
        ∃ response, (traffic.hub.request arrival).2 = .response response ∧
          response.status ≠ 202 ∧ response.status ≠ 410 := by
  intro traffic
  have hkept : Kept config clock zones acts traffic.journal := kept_after config clock zones hfresh
  refine ⟨fun number stream hstream => exists_delivers hkept hstream,
    fun _ _ _ _ _ _ hstream hstream' => streams_unique hkept hstream hstream',
    hkept.sound.sent_nodup, mem_sent_iff hkept, ?_,
    fun number posting hget => ⟨hkept.traces hget, settles hkept hget⟩, ?_, ?_⟩
  · rintro before ⟨later, rfl⟩
    exact sent_prefix_append hfresh
  · rintro before arrival later rfl session found haddressee
    have hposted : ((start config clock zones).after (before ++ [.request arrival])).postings[
        ((start config clock zones).after before).postings.length]? =
          some ⟨arrival, session, .found⟩ := by
      rw [after_concat, step, request_of_addressee haddressee]
      exact List.getElem?_concat_length
    rw [List.append_cons] at hfresh
    obtain ⟨stage, hstage⟩ := exists_stage_append hfresh hposted
    rw [← List.append_cons] at hstage
    exact ⟨stage, hstage⟩
  · intro arrival hnone hmethod hpath
    obtain ⟨response, hresponse, hstatus⟩ := Hub.status_of_not_addressee hnone hmethod hpath
    refine ⟨response, hresponse, ?_⟩
    simp only [List.mem_cons, List.not_mem_nil, or_false] at hstatus
    omega

/-- A stream is opened, its announcement is read, and a message is posted for it. The reply to it is
sent and read. -/
def visit : List TrafficAct :=
  [.request (Run.bareArrival "GET" "/sse" "first"), .look 0, .request Run.streamMessage, .proceed 0,
    .proceed 0, .look 0]

/-- One reply is sent on the stream, and its sender learns that. -/
theorem replies_delivered_visit :
    FreshIds visit ∧ let traffic := (start (Run.streamConfig none) Run.epoch).after visit
      traffic.sent.length = 1 ∧ traffic.frames.length = 2 ∧
      (∃ stream session outbox taken, traffic.hub.streams[0]? = some stream ∧
        traffic.Delivers (Run.streamConfig none) 0 stream session outbox taken) ∧
      ∃ posting, traffic.postings[0]? = some posting ∧ traffic.Settles 0 posting := by
  have hfresh : FreshIds visit := by decide
  have hsent : ((start (Run.streamConfig none) Run.epoch).after visit).sent.length = 1 := by
    decide +kernel
  have hframes : ((start (Run.streamConfig none) Run.epoch).after visit).frames.length = 2 := by
    decide +kernel
  have hstreams : ((start (Run.streamConfig none) Run.epoch).after visit).hub.streams[0]?.isSome =
      true := by
    decide +kernel
  have hpostings : ((start (Run.streamConfig none) Run.epoch).after visit).postings[0]?.isSome =
      true := by
    decide +kernel
  obtain ⟨stream, hstream⟩ := Option.isSome_iff_exists.1 hstreams
  obtain ⟨posting, hposting⟩ := Option.isSome_iff_exists.1 hpostings
  obtain ⟨hdelivers, -, -, -, -, hsettles, -⟩ :=
    replies_delivered (Run.streamConfig none) Run.epoch Zone.find? visit hfresh
  obtain ⟨session, outbox, taken, hdelivered⟩ := hdelivers 0 stream hstream
  exact ⟨hfresh, hsent, hframes, ⟨stream, session, outbox, taken, hstream, hdelivered⟩, posting,
    hposting, (hsettles 0 posting hposting).2⟩

end Traffic

end WorldClock
