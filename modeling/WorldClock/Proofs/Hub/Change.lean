import WorldClock.Proofs.Hub.Readers
/-!
# What acts do to replies

Whatever an act does, as far as replies see it, is a few changes of the journal (`Traffic.Change`).
Each change keeps a journal sound, loses no message and no reply, and tells where a message and the
answer to it come from.
-/

namespace WorldClock

namespace Traffic

/-- What comes of a message if it is handled now. -/
def answerTo? (traffic : Traffic) (posting : Posting) : Option Answer :=
  traffic.hub.sessions[posting.session]?.map fun session =>
    (traffic.hub.server.handle ⟨traffic.hub.clock, posting.arrival.elapsed⟩ session.greeted
      posting.arrival.request.body).answer

/-- A change that an act can make in a journal. -/
inductive Change (traffic : Traffic) (act : TrafficAct) (journal : Journal) : Journal → Prop
  | posted {arrival : Arrival} {session : SessionNumber} {found : Session} {id : String}
      {outbox : Outbox} (hact : act = .request arrival)
      (haddressee : traffic.hub.addressee? arrival = some (session, found))
      (hpostings : journal.postings = traffic.postings)
      (hport : journal.scene.ports[session]? = some ⟨id, .sse outbox⟩)
      (hposts : arrival.PostsForStream journal.scene.config id) :
      Change traffic act journal
        { journal with postings := journal.postings ++ [⟨arrival, session, .found⟩] }
  | entered {arrival : Arrival} {surface : Surface} (hact : act = .request arrival)
      (hfresh : arrival.freshId ∉ journal.scene.ids)
      (hsurface : ∀ outbox, surface = .sse outbox →
        outbox.capacity = outboxCapacity ∧ outbox.queue = [] ∧ outbox.line = []) :
      Change traffic act journal
        { journal with
          scene := { journal.scene with
            ports := journal.scene.ports ++ [⟨arrival.freshId, surface⟩] } }
  | connected {session : SessionNumber} {id : String} {time : Duration}
      (hport : journal.scene.ports[session]? = some ⟨id, .sse (.ofCapacity outboxCapacity)⟩)
      (hstreams : ∀ stream ∈ journal.scene.streams, stream.session ≠ session)
      (hpostings : ∀ posting ∈ journal.postings, posting.session ≠ session) :
      Change traffic act journal
        { journal with
          scene := { journal.scene with
            streams := journal.scene.streams ++ [⟨session, false, time, true⟩] } }
  | moved {number : PostingNumber} {posting : Posting} {stage : Stage} {id : String}
      {outbox outbox' : Outbox} {news : Option Response} {nextTicket : Ticket}
      (hmoves : Journal.Moves journal.scene.nextTicket outbox posting.stage stage outbox' news)
      (hposting : journal.postings[number]? = some posting)
      (hport : journal.scene.ports[posting.session]? = some ⟨id, .sse outbox⟩)
      (hle : journal.scene.nextTicket ≤ nextTicket)
      (hlt : ∀ ticket reply, stage = .waiting ticket reply → ticket < nextTicket)
      (hheard : posting.stage = .found →
        act = .proceed number ∧ traffic.postings[number]? = some posting ∧
          stage.answer? = traffic.answerTo? posting) :
      Change traffic act journal (journal.move number posting stage outbox' news nextTicket)
  | announced {number : StreamNumber} {stream : EventStream} {id : String} {outbox : Outbox}
      {time : Duration} (hstream : journal.scene.streams[number]? = some stream)
      (hport : journal.scene.ports[stream.session]? = some ⟨id, .sse outbox⟩)
      (hannounced : stream.announced = false) :
      Change traffic act journal
        (journal.read number stream.session outbox time (journal.announcement id))
  | gaveSign {number : StreamNumber} {stream : EventStream} {id : String} {outbox : Outbox}
      {time : Duration} (hstream : journal.scene.streams[number]? = some stream)
      (hport : journal.scene.ports[stream.session]? = some ⟨id, .sse outbox⟩)
      (hannounced : stream.announced = true) :
      Change traffic act journal (journal.read number stream.session outbox time signOfLife)
  | took {number : StreamNumber} {stream : EventStream} {id : String} {outbox : Outbox}
      {reply : Response} {queue : List Response} {time : Duration}
      (hstream : journal.scene.streams[number]? = some stream)
      (hport : journal.scene.ports[stream.session]? = some ⟨id, .sse outbox⟩)
      (hannounced : stream.announced = true) (hopen : stream.isOpen = true)
      (hqueue : outbox.queue = reply :: queue) :
      Change traffic act journal
        (journal.read number stream.session { outbox with queue } time (replyEvent reply))
  | closed {number : StreamNumber} {stream : EventStream} {id : String} {outbox : Outbox}
      (hstream : journal.scene.streams[number]? = some stream)
      (hport : journal.scene.ports[stream.session]? = some ⟨id, .sse outbox⟩) :
      Change traffic act journal (journal.close number stream.session outbox)

/-- What an act does to a journal. -/
abbrev Changes (traffic : Traffic) (act : TrafficAct) : Journal → Journal → Prop :=
  Relation.ReflTransGen (traffic.Change act)

variable {traffic : Traffic} {act : TrafficAct} {journal journal' : Journal}

/-- Each change keeps a journal sound. -/
theorem Change.sound (h : traffic.Change act journal journal') (hsound : journal.Sound) :
    journal'.Sound := by
  cases h with
  | posted hact haddressee hpostings hport hposts => exact hsound.post hport hposts
  | entered hact hfresh hsurface => exact hsound.enter hfresh hsurface
  | connected hport hstreams hpostings => exact hsound.connect _ hport hstreams hpostings
  | moved hmoves hposting hport hle hlt hheard => exact hsound.move hmoves hposting hport hle hlt
  | announced hstream hport hannounced => exact hsound.announce hstream hport hannounced _
  | gaveSign hstream hport hannounced => exact hsound.giveSign hstream hport hannounced _
  | took hstream hport hannounced hopen hqueue =>
    exact hsound.take hstream hport hannounced hopen hqueue _
  | closed hstream hport => exact hsound.close hstream hport

/-! ### What each act does -/

section Acts

variable {number : PostingNumber} {posting : Posting} {session : Session} {outbox : Outbox}

/-- The session of a message is one of a stream. -/
lemma exists_outbox_of_posting (h : traffic.journal.Sound)
    (hposting : traffic.postings[number]? = some posting)
    (hget : traffic.hub.sessions[posting.session]? = some session) :
    ∃ outbox, session.surface = .sse outbox ∧
      traffic.journal.scene.ports[posting.session]? = some ⟨session.id, .sse outbox⟩ := by
  obtain ⟨id, outbox, hfits⟩ := h.fits hposting
  have hport := Sessions.getElem?_ports hget
  have hsame := hport.symm.trans hfits.port_eq
  rw [Option.some.injEq, Session.port, Port.mk.injEq] at hsame
  obtain ⟨rfl, hsurface⟩ := hsame
  exact ⟨outbox, hsurface, hfits.port_eq⟩

lemma changes_request (h : traffic.journal.Sound) {arrival : Arrival}
    (hfresh : arrival.freshId ∉ traffic.hub.scene.ids) :
    traffic.Changes (.request arrival) traffic.journal (traffic.request arrival).journal := by
  unfold request
  cases haddressee : traffic.hub.addressee? arrival with
  | some found =>
    obtain ⟨number, session⟩ := found
    obtain ⟨hposts, hget, hkind⟩ := Hub.postsForStream_of_addressee haddressee
    have hport := Sessions.getElem?_ports hget
    obtain ⟨id, surface, greeted, lastSeen, registered, held⟩ := session
    cases surface with
    | sse outbox => exact .single (.posted rfl haddressee rfl hport hposts)
    | stdio => cases hkind
    | http => cases hkind
  | none =>
    have henters := Hub.Enters.of_request haddressee
    simp only [journal]
    generalize (traffic.hub.request arrival).1.scene = scene at henters
    cases henters with
    | nothing => exact .refl
    | silent hsurface =>
      refine .single (.entered rfl hfresh fun outbox heq => ?_)
      rw [hsurface outbox heq]
      exact ⟨rfl, rfl, rfl⟩
    | connected =>
      have hentered : traffic.Change (.request arrival) traffic.journal
          { traffic.journal with
            scene := { traffic.journal.scene with
              ports := traffic.journal.scene.ports ++
                [⟨arrival.freshId, .sse (.ofCapacity outboxCapacity)⟩] } } :=
        .entered rfl hfresh fun outbox heq => by
          cases heq
          exact ⟨rfl, rfl, rfl⟩
      have hport : (traffic.journal.scene.ports ++
          [⟨arrival.freshId, .sse (.ofCapacity outboxCapacity)⟩])[traffic.hub.scene.ports.length]? =
            some ⟨arrival.freshId, .sse (.ofCapacity outboxCapacity)⟩ := List.getElem?_concat_length
      refine .tail (.single hentered) (.connected hport (fun stream hstream => ?_)
        fun posting hposting => ?_)
      · obtain ⟨number, hget⟩ := List.getElem?_of_mem hstream
        obtain ⟨id, outbox, taken, htells⟩ := h.tells hget
        exact (List.getElem?_eq_some_iff.1 htells.port_eq).1.ne
      · obtain ⟨number, hget⟩ := List.getElem?_of_mem hposting
        obtain ⟨id, outbox, hfits⟩ := h.fits hget
        exact (List.getElem?_eq_some_iff.1 hfits.port_eq).1.ne

/-- To handle a message is to move it on. -/
lemma changes_hear (h : traffic.journal.Sound) {arrival : Arrival} {session : SessionNumber}
    {found : Session} (hposting : traffic.postings[number]? = some ⟨arrival, session, .found⟩)
    (hget : traffic.hub.sessions[session]? = some found) :
    traffic.Changes (.proceed number) traffic.journal
      (traffic.hear number ⟨arrival, session, .found⟩ found).journal := by
  obtain ⟨outbox, hsurface, hport⟩ := exists_outbox_of_posting h hposting hget
  have hscene := @Hub.scene_hear traffic.hub arrival.elapsed session found arrival.request.body
  have hanswer : traffic.answerTo? ⟨arrival, session, .found⟩ =
      some (traffic.hub.hear arrival.elapsed session found arrival.request.body).2 := by
    rw [answerTo?, hget]
    rfl
  unfold hear
  generalize traffic.hub.hear arrival.elapsed session found arrival.request.body = outcome
    at hscene hanswer
  obtain ⟨hub, answer⟩ := outcome
  have hchange : traffic.Change (.proceed number) traffic.journal _ :=
    .moved (.heard answer) hposting hport le_rfl (fun ticket reply hstage => ?_)
      fun _ => ⟨rfl, hposting, ?_⟩
  · rw [Journal.move_eq hport] at hchange
    simp only [note, journal, hscene]
    exact .single hchange
  · cases answer <;> cases hstage
  · rw [hanswer]
    cases answer <;> rfl

/-- To send a reply is to move its message on. -/
lemma changes_send (h : traffic.journal.Sound) {arrival : Arrival} {session : SessionNumber}
    {reply : Response} {found : Session}
    (hposting : traffic.postings[number]? = some ⟨arrival, session, .owing reply⟩)
    (hget : traffic.hub.sessions[session]? = some found) :
    traffic.Changes (.proceed number) traffic.journal
      (traffic.send number ⟨arrival, session, .owing reply⟩ found reply).journal := by
  obtain ⟨outbox, hsurface, hport⟩ := exists_outbox_of_posting h hposting hget
  have hdelivers := Hub.Delivers.of_deliver hget hsurface reply
  simp only [send, note, journal]
  generalize (traffic.hub.deliver session found reply).1.scene = scene,
    (traffic.hub.deliver session found reply).2 = reaction, found.sends reply = sends at hdelivers
  cases hdelivers with
  | closed hread =>
    have hchange : traffic.Change (.proceed number) traffic.journal _ :=
      .moved (.refused hread) hposting hport le_rfl nofun nofun
    rw [Journal.move_eq hport] at hchange
    simp only [Bool.false_eq_true, if_false, List.append_nil]
    exact .single hchange
  | sent hread hroom =>
    exact .single (.moved (.pushed hroom) hposting hport le_rfl nofun nofun)
  | full hread hroom =>
    refine .single (.moved (.linedUp hread) hposting hport (Nat.le_succ _) ?_ nofun)
    intro ticket reply hstage
    cases hstage
    exact Nat.lt_succ_self _

lemma changes_proceed (h : traffic.journal.Sound) (number : PostingNumber) :
    traffic.Changes (.proceed number) traffic.journal (traffic.proceed number).journal := by
  unfold proceed
  split
  · exact .refl
  · next posting hposting =>
    obtain ⟨arrival, session, stage⟩ := posting
    split
    · exact .refl
    · next found hget =>
      cases stage with
      | found => exact changes_hear h hposting hget
      | owing reply => exact changes_send h hposting hget
      | waiting | answered | stopped | abandoned => exact .refl

lemma changes_abandon (h : traffic.journal.Sound) (number : PostingNumber) :
    traffic.Changes (.abandon number) traffic.journal (traffic.abandon number).journal := by
  unfold abandon
  split
  · next arrival session ticket reply hposting =>
    obtain ⟨id, outbox, hfits⟩ := h.fits hposting
    have hmem := (hfits.waiting rfl).2
    have hchange : traffic.Change (.abandon number) traffic.journal _ :=
      .moved (.left hmem) hposting hfits.port_eq le_rfl nofun nofun
    have hscene := h.scene_abandon hfits.port_eq hmem
    simp only [note, journal, Hub.scene_abandon]
    rw [show traffic.hub.scene.abandon ticket = _ from hscene]
    simp only [Journal.move, Option.map_none, Option.toList_none, List.append_nil] at hchange
    exact .single hchange
  · exact .refl

lemma changes_close (h : traffic.journal.Sound) (number : StreamNumber) :
    traffic.Changes (.close number) traffic.journal (traffic.close number).journal := by
  cases hentry : traffic.hub.stream? number with
  | none =>
    have hrefuse : traffic.postings.map (Posting.refuse []) = traffic.postings :=
      List.map_id'' (fun posting => by
        obtain ⟨_, hmem, -⟩ | ⟨hrefuse, -⟩ := Posting.refuse_cases [] posting
        · cases hmem
        · exact hrefuse) _
    simp only [close, Hub.closeStream, hentry, journal, hrefuse]
    exact .refl
  | some entry =>
    obtain ⟨stream, session⟩ := entry
    obtain ⟨hstream, -, hget⟩ := Hub.exists_of_stream hentry
    obtain ⟨id, outbox, taken, htells⟩ := h.tells hstream
    have hsurface : session.surface = .sse outbox := by
      have hsame := (Sessions.getElem?_ports hget).symm.trans htells.port_eq
      rw [Option.some.injEq, Session.port, Port.mk.injEq] at hsame
      exact hsame.2
    obtain ⟨hscene, hrefused⟩ := Hub.scene_closeStream hentry hsurface
    simp only [close, journal, hscene, hrefused]
    exact .single (.closed hstream htells.port_eq)

lemma waitsWith_iff {ticket : Ticket} :
    posting.waitsWith ticket = true ↔ ∃ reply, posting.stage = .waiting ticket reply := by
  unfold Posting.waitsWith
  split
  · next ticket' reply hstage => simp [hstage]
  · next hstage => simpa using fun reply => hstage ticket reply

/-- When a reply moves in, its message is answered. -/
lemma moveIn_eq {arrival : Arrival} {session : SessionNumber} {ticket : Ticket} {reply : Response}
    (hposting : traffic.postings[number]? = some ⟨arrival, session, .waiting ticket reply⟩)
    (hunique : ∀ {other : PostingNumber} {posting : Posting} {reply' : Response},
      traffic.postings[other]? = some posting → posting.stage = .waiting ticket reply' →
        other = number) :
    traffic.moveIn ticket =
      { traffic with sent := traffic.sent ++ [SentReply.mk number session reply] }.note number
        ⟨arrival, session, .waiting ticket reply⟩ (.answered (some reply) Stage.taken) := by
  have hfind : traffic.postings.findIdx? (Posting.waitsWith ticket) = some number := by
    cases hfind : traffic.postings.findIdx? (Posting.waitsWith ticket) with
    | none =>
      have hnone := List.findIdx?_eq_none_iff.1 hfind _ (List.mem_of_getElem? hposting)
      rw [waitsWith_iff.2 ⟨reply, rfl⟩] at hnone
      cases hnone
    | some other =>
      obtain ⟨hlt, hwaits, -⟩ := List.findIdx?_eq_some_iff_getElem.1 hfind
      obtain ⟨reply', hstage⟩ := waitsWith_iff.1 hwaits
      exact congrArg some (hunique (List.getElem?_eq_getElem hlt) hstage)
  simp only [moveIn, hfind, hposting]

/-- When a reply is read, it leaves the outbox, and if one stands in line, that moves in. -/
lemma changes_received (h : traffic.journal.Sound) {number : StreamNumber} {stream : EventStream}
    {id : String} {reply : Response} {queue : List Response}
    (hstream : traffic.hub.streams[number]? = some stream)
    (hport : traffic.hub.scene.ports[stream.session]? = some ⟨id, .sse outbox⟩)
    (hannounced : stream.announced = true) (hopen : stream.isOpen = true)
    (hqueue : outbox.queue = reply :: queue) {hub : Hub}
    (hscene : hub.scene = (traffic.hub.scene.setOutbox stream.session
      { outbox with queue }.moveIn.1).noteFrame number traffic.hub.time) :
    let read : Traffic := { traffic with
      hub, frames := traffic.frames ++ [(number, replyEvent reply)] }
    traffic.Changes (.look number) traffic.journal
      (match { outbox with queue }.moveIn.2 with
      | none => read
      | some ticket => read.moveIn ticket).journal := by
  have htook : traffic.Change (.look number) traffic.journal
      (traffic.journal.read number stream.session { outbox with queue } traffic.hub.time
        (replyEvent reply)) :=
    .took hstream hport hannounced hopen hqueue
  obtain hmoveIn | ⟨ticket, reply', line, hline, hroom, hmoveIn⟩ :=
    Outbox.moveIn_cases { outbox with queue }
  · simp only [journal, hscene, hmoveIn]
    exact .single htook
  · -- The reply that moves in is one of a message that waits.
    obtain ⟨waiter, arrival, hposting⟩ := (h.holds hport).waits
      (show (ticket, reply') ∈ outbox.line from hline ▸ List.mem_cons_self)
    have hmoved : traffic.Change (.look number)
        (traffic.journal.read number stream.session { outbox with queue } traffic.hub.time
          (replyEvent reply))
        ((traffic.journal.read number stream.session { outbox with queue } traffic.hub.time
          (replyEvent reply)).move waiter ⟨arrival, stream.session, .waiting ticket reply'⟩
            (.answered (some reply') Stage.taken) ({ outbox with queue, line }.push reply')
            (some reply') traffic.hub.nextTicket) :=
      .moved (.movedIn hline hroom) hposting
        (Scene.getElem?_setOutbox_self hport { outbox with queue }) le_rfl
        (fun _ _ hstage => by cases hstage) fun hstage => by cases hstage
    have hnote := @moveIn_eq { traffic with
      hub, frames := traffic.frames ++ [(number, replyEvent reply)] } waiter _ _ _ _ hposting
        fun hget hstage => h.tickets_inj hget hposting hstage rfl
    have hboth := @Scene.setOutbox_setOutbox traffic.hub.scene stream.session
      { outbox with queue } ({ outbox with queue, line }.push reply')
    rw [hmoveIn, ← hboth] at hscene
    refine .tail (.single htook) ?_
    simp only [hmoveIn, hnote, note, journal, hscene]
    exact hmoved

lemma changes_look (h : traffic.journal.Sound) (number : StreamNumber) :
    traffic.Changes (.look number) traffic.journal (traffic.look number).journal := by
  have hlooks := Hub.Looks.of_look traffic.hub number
  unfold look
  generalize traffic.hub.look number = outcome at hlooks
  obtain ⟨hub, look⟩ := outcome
  dsimp only at hlooks ⊢
  generalize hscene : hub.scene = scene at hlooks
  cases hlooks with
  | nothing hglance =>
    simp only [journal, hscene, hglance, List.map_nil, List.append_nil]
    exact .refl
  | @alive stream hstream hannounced =>
    obtain ⟨id, outbox, taken, htells⟩ := h.tells hstream
    have hsign : traffic.Change (.look number) traffic.journal
        (traffic.journal.read number stream.session outbox traffic.hub.time signOfLife) :=
      .gaveSign hstream htells.port_eq hannounced
    rw [Journal.read, Scene.setOutbox_eq_self htells.port_eq] at hsign
    simp only [journal, hscene]
    exact .single hsign
  | @announced stream port hstream hport hannounced =>
    obtain ⟨id, outbox, taken, htells⟩ := h.tells hstream
    obtain rfl := Option.some.inj (hport.symm.trans htells.port_eq)
    have hread : traffic.Change (.look number) traffic.journal
        (traffic.journal.read number stream.session outbox traffic.hub.time
          (traffic.journal.announcement id)) :=
      .announced hstream htells.port_eq hannounced
    rw [Journal.read, Scene.setOutbox_eq_self htells.port_eq] at hread
    simp only [journal, hscene]
    exact .single hread
  | @received stream port outbox reply queue hstream hopen hport hannounced hsurface hqueue =>
    obtain ⟨id, surface⟩ := port
    obtain rfl : surface = .sse outbox := hsurface
    exact changes_received h hstream hport hannounced hopen hqueue hscene

end Acts

/-- What an act does is a few changes of the journal. -/
theorem changes_step (h : traffic.journal.Sound)
    (hfresh : ∀ id ∈ act.freshId?, id ∉ traffic.hub.scene.ids) :
    traffic.Changes act traffic.journal (traffic.step act).journal := by
  cases act with
  | request arrival => exact changes_request h (hfresh _ rfl)
  | proceed number => exact changes_proceed h number
  | look number => exact changes_look h number
  | close number => exact changes_close h number
  | abandon number => exact changes_abandon h number
  | wait duration =>
    simp only [step, journal, Hub.scene_advance]
    exact .refl
  | setClock clock => exact .refl

/-! ### What is known of a message -/

/-- A message has an answer as soon as it has been handled. -/
lemma answer?_eq_none_iff {stage : Stage} : stage.answer? = none ↔ stage = .found := by
  cases stage with
  | answered due response => cases due <;> simp [Stage.answer?]
  | _ => simp [Stage.answer?]

lemma answer?_eq_of_moves {ticket : Ticket} {outbox outbox' : Outbox} {before after : Stage}
    {news : Option Response} (h : Journal.Moves ticket outbox before after outbox' news)
    (hbefore : before ≠ .found) : before.answer? = after.answer? := by
  cases h with
  | heard answer => exact absurd rfl hbefore
  | refused | pushed | linedUp | movedIn | left => rfl

namespace Change

variable {number : PostingNumber} {posting : Posting}

lemma config_eq (h : traffic.Change act journal journal') :
    journal'.scene.config = journal.scene.config := by
  cases h <;> rfl

lemma sent_prefix (h : traffic.Change act journal journal') : journal.sent <+: journal'.sent := by
  cases h with
  | moved hmoves hposting hport hle hlt hheard => exact List.prefix_append _ _
  | _ => exact List.prefix_refl _

lemma mem_ids (h : traffic.Change act journal journal') {id : String}
    (hid : id ∈ journal'.scene.ids) : id ∈ journal.scene.ids ∨ id ∈ act.freshId? := by
  cases h with
  | entered hact hfresh hsurface =>
    subst hact
    rw [Scene.ids, List.map_append, List.mem_append, List.map_singleton,
      List.mem_singleton] at hid
    exact hid.imp_right fun heq => congrArg some heq.symm
  | moved | announced | gaveSign | took | closed => exact .inl (Scene.ids_setOutbox _ _ ▸ hid)
  | posted | connected => exact .inl hid

/-- A message that came in does not get lost. -/
lemma exists_stage (h : traffic.Change act journal journal')
    (hget : journal.postings[number]? = some posting) :
    ∃ stage, journal'.postings[number]? = some { posting with stage } := by
  cases h with
  | posted hact haddressee hpostings hport hposts =>
    exact ⟨posting.stage, Journal.getElem?_concat_of_getElem? hget _⟩
  | @moved moved _ stage _ _ _ _ _ hmoves hposting hport hle hlt hheard =>
    by_cases hnumber : moved = number
    · subst hnumber
      obtain rfl := Option.some.inj (hget.symm.trans hposting)
      exact ⟨stage, List.getElem?_set_self (List.getElem?_eq_some_iff.1 hget).1⟩
    · exact ⟨posting.stage, (List.getElem?_set_ne hnumber).trans hget⟩
  | closed hstream hport =>
    rw [Journal.close, List.getElem?_map, hget, Option.map_some]
    obtain ⟨_, -, _, -, hrefuse⟩ | ⟨hrefuse, -⟩ := Posting.refuse_cases _ posting
    · exact ⟨_, congrArg some hrefuse⟩
    · exact ⟨posting.stage, congrArg some hrefuse⟩
  | _ => exact ⟨posting.stage, hget⟩

/-- Where a message comes from that is there after a change: it was there before, and its answer is
the one that it had or the one that it got when it was handled; or it has come in. -/
lemma exists_posting (h : traffic.Change act journal journal')
    (hget : journal'.postings[number]? = some posting) :
    (∃ stage, journal.postings[number]? = some { posting with stage } ∧
      (stage.answer? = posting.stage.answer? ∨
        act = .proceed number ∧
          traffic.postings[number]? = some { posting with stage := .found } ∧
          posting.stage.answer? = traffic.answerTo? posting)) ∨
      posting.stage = .found ∧ act = .request posting.arrival ∧
        traffic.postings.length = number ∧
        ∃ found, traffic.hub.addressee? posting.arrival = some (posting.session, found) := by
  cases h with
  | posted hact haddressee hpostings hport hposts =>
    obtain hget | ⟨rfl, rfl⟩ := Journal.getElem?_concat_cases hget
    · exact .inl ⟨posting.stage, hget, .inl rfl⟩
    · exact .inr ⟨rfl, hact, congrArg List.length hpostings.symm, _, haddressee⟩
  | @moved moved before stage _ _ _ _ _ hmoves hposting hport hle hlt hheard =>
    obtain ⟨rfl, rfl⟩ | ⟨-, hget⟩ := Journal.getElem?_set_cases hget
    · refine .inl ⟨before.stage, hposting, ?_⟩
      by_cases hfound : before.stage = .found
      · obtain ⟨hact, hbefore, hanswer⟩ := hheard hfound
        refine .inr ⟨hact, ?_, hanswer⟩
        rw [hbefore, ← hfound]
      · exact .inl (answer?_eq_of_moves hmoves hfound)
    · exact .inl ⟨posting.stage, hget, .inl rfl⟩
  | closed hstream hport =>
    obtain ⟨before, hbefore, rfl⟩ := Option.map_eq_some_iff.1 (List.getElem?_map ▸ hget)
    obtain ⟨_, -, _, hstage, hrefuse⟩ | ⟨hrefuse, -⟩ := Posting.refuse_cases _ before
    · rw [hrefuse]
      exact .inl ⟨before.stage, hbefore, .inl (hstage ▸ rfl)⟩
    · rw [hrefuse]
      exact .inl ⟨before.stage, hbefore, .inl rfl⟩
  | _ => exact .inl ⟨posting.stage, hget, .inl rfl⟩

end Change

namespace Changes

lemma sent_prefix (h : traffic.Changes act journal journal') : journal.sent <+: journal'.sent := by
  induction h with
  | refl => exact List.prefix_refl _
  | tail _ hchange ih => exact ih.trans hchange.sent_prefix

lemma exists_stage (h : traffic.Changes act journal journal') {number : PostingNumber}
    {posting : Posting} (hget : journal.postings[number]? = some posting) :
    ∃ stage, journal'.postings[number]? = some { posting with stage } := by
  induction h with
  | refl => exact ⟨posting.stage, hget⟩
  | tail _ hchange ih =>
    obtain ⟨_, hbefore⟩ := ih
    obtain ⟨stage, hstage⟩ := hchange.exists_stage hbefore
    exact ⟨stage, hstage⟩

end Changes

end Traffic

end WorldClock
