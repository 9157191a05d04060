import WorldClock.Proofs.Hub.Journal
/-!
# Readers of streams

A journal stays sound when something is read on a stream, which is its announcement, a sign of life
or the first reply in the outbox of its session, and when the reader goes away.
-/

namespace WorldClock

namespace Journal

variable {journal : Journal} {number : StreamNumber} {stream : EventStream} {id : String}
  {outbox : Outbox}

lemma getElem?_modify_self {α : Type} {as : List α} {k : Nat} {a : α} (h : as[k]? = some a)
    (f : α → α) : (as.modify k f)[k]? = some (f a) := by
  rw [List.getElem?_modify_eq, h, Option.map_eq_map, Option.map_some]

lemma getElem?_modify_cases {α : Type} {as : List α} {k other : Nat} {a found : α} {f : α → α}
    (ha : as[k]? = some a) (h : (as.modify k f)[other]? = some found) :
    other = k ∧ found = f a ∨ other ≠ k ∧ as[other]? = some found := by
  by_cases hother : other = k
  · subst hother
    rw [getElem?_modify_self ha] at h
    exact .inl ⟨rfl, (Option.some.inj h).symm⟩
  · rw [List.getElem?_modify_ne _ _ (Ne.symm hother)] at h
    exact .inr ⟨hother, h⟩

/-- No two streams have the same session, whatever else is changed in one. -/
lemma Sound.streams_inj_modify (h : journal.Sound)
    (hstream : journal.scene.streams[number]? = some stream) {f : EventStream → EventStream}
    (hf : (f stream).session = stream.session) {k k' : StreamNumber} {found found' : EventStream}
    (hfound : (journal.scene.streams.modify number f)[k]? = some found)
    (hfound' : (journal.scene.streams.modify number f)[k']? = some found')
    (hsession : found.session = found'.session) : k = k' := by
  obtain ⟨rfl, rfl⟩ | ⟨-, hold⟩ := getElem?_modify_cases hstream hfound <;>
    obtain ⟨rfl, rfl⟩ | ⟨-, hold'⟩ := getElem?_modify_cases hstream hfound'
  · rfl
  · exact h.streams_inj hstream hold' (hf.symm.trans hsession)
  · exact h.streams_inj hold hstream (hsession.trans hf)
  · exact h.streams_inj hold hold' hsession

/-- Something is read on a stream. Some replies may have left its outbox for it. -/
def read (journal : Journal) (number : StreamNumber) (session : SessionNumber) (outbox : Outbox)
    (time : Duration) (frame : String) : Journal :=
  { journal with
    scene := (journal.scene.setOutbox session outbox).noteFrame number time
    frames := journal.frames ++ [(number, frame)] }

lemma framesOf_read_self (session : SessionNumber) (time : Duration) (frame : String) :
    (journal.read number session outbox time frame).framesOf number =
      journal.framesOf number ++ [frame] := by
  simp [framesOf, read]

lemma framesOf_read_ne {other : StreamNumber} (h : other ≠ number) (session : SessionNumber)
    (time : Duration) (frame : String) :
    (journal.read number session outbox time frame).framesOf other = journal.framesOf other := by
  simp [framesOf, read, h.symm]

/-- A journal stays sound when something is read that is what the stream has to tell. -/
lemma Sound.read (h : journal.Sound) (hstream : journal.scene.streams[number]? = some stream)
    (hport : journal.scene.ports[stream.session]? = some ⟨id, .sse outbox⟩) {queue : List Response}
    (hqueue : queue.length ≤ outbox.queue.length) {time : Duration} {frame : String}
    (htells : ∃ taken, (journal.read number stream.session { outbox with queue } time frame).Tells
      number { stream with announced := true, lastFrame := time } id { outbox with queue } taken) :
    (journal.read number stream.session { outbox with queue } time frame).Sound where
  tells {other found} hfound := by
    obtain ⟨rfl, rfl⟩ | ⟨hother, hfound⟩ := getElem?_modify_cases hstream hfound
    · exact ⟨id, _, htells⟩
    · obtain ⟨id', outbox', taken, htells'⟩ := h.tells hfound
      have hsession : found.session ≠ stream.session := fun hsession =>
        hother (h.streams_inj hfound hstream hsession)
      exact ⟨id', outbox', taken, htells'.of_eq rfl (Scene.getElem?_setOutbox_ne hsession _)
        (framesOf_read_ne hother _ _ _) rfl⟩
  streams_inj := h.streams_inj_modify hstream rfl
  holds {session id' outbox'} hport' := by
    by_cases hsession : session = stream.session
    · subst hsession
      obtain ⟨-, rfl⟩ := port_inj (Scene.getElem?_setOutbox_self hport _) hport'
      have hholds := h.holds hport
      exact ⟨hholds.capacity_eq, hqueue.trans hholds.length_le, hholds.line_nodup, hholds.waits,
        hholds.line_eq_nil⟩
    · have hport := (Scene.getElem?_setOutbox_ne hsession _).symm.trans hport'
      exact (h.holds hport).of_postings fun _ hget => hget
  fits {other posting} hget := by
    obtain ⟨id', outbox', hfits⟩ := h.fits hget
    by_cases hsession : posting.session = stream.session
    · obtain ⟨rfl, rfl⟩ := port_inj hport (hsession ▸ hfits.port_eq)
      exact ⟨id, { outbox with queue }, hfits.mono rfl
        (hsession ▸ Scene.getElem?_setOutbox_self hport _) (fun _ hline => hline)
        (fun hread => hread) le_rfl (List.Subset.refl _)⟩
    · exact ⟨id', outbox', hfits.of_port rfl
        ((Scene.getElem?_setOutbox_ne hsession _).trans hfits.port_eq) le_rfl (List.Subset.refl _)⟩
  tickets_inj := h.tickets_inj
  sent_answered := h.sent_answered
  ids_nodup := (Scene.ids_setOutbox _ _).symm ▸ h.ids_nodup
  sent_nodup := h.sent_nodup
  frames_lt other hframe := by
    rw [Journal.read, Scene.noteFrame, List.length_modify]
    obtain hframe | hframe := List.mem_append.1 hframe
    · exact h.frames_lt other hframe
    · obtain rfl := List.mem_singleton.1 hframe
      exact (List.getElem?_eq_some_iff.1 hstream).1

/-- What is read of a stream at first is its announcement. -/
lemma Sound.announce (h : journal.Sound) (hstream : journal.scene.streams[number]? = some stream)
    (hport : journal.scene.ports[stream.session]? = some ⟨id, .sse outbox⟩)
    (hannounced : stream.announced = false) (time : Duration) :
    (journal.read number stream.session outbox time (journal.announcement id)).Sound := by
  obtain ⟨id', found, taken, htells⟩ := h.tells hstream
  obtain ⟨rfl, rfl⟩ := port_inj hport htells.port_eq
  obtain rfl := htells.taken_eq_nil hannounced
  have hevents := htells.events_eq
  rw [hannounced] at hevents
  refine h.read hstream hport le_rfl ⟨[], Scene.getElem?_setOutbox_self hport _, htells.isRead_eq,
    ?_, nofun, List.nil_prefix, htells.taken_append⟩
  rw [framesOf_read_self, eventsIn_append, hevents, announcement, eventsIn_eventText]
  rfl

/-- A sign of life tells nothing. -/
lemma Sound.giveSign (h : journal.Sound) (hstream : journal.scene.streams[number]? = some stream)
    (hport : journal.scene.ports[stream.session]? = some ⟨id, .sse outbox⟩)
    (hannounced : stream.announced = true) (time : Duration) :
    (journal.read number stream.session outbox time signOfLife).Sound := by
  obtain ⟨id', found, taken, htells⟩ := h.tells hstream
  obtain ⟨rfl, rfl⟩ := port_inj hport htells.port_eq
  have hevents := htells.events_eq
  rw [hannounced] at hevents
  refine h.read hstream hport le_rfl ⟨taken, Scene.getElem?_setOutbox_self hport _,
    htells.isRead_eq, ?_, nofun, htells.taken_prefix, htells.taken_append⟩
  rw [framesOf_read_self, eventsIn_append, hevents, eventsIn_signOfLife, List.append_nil]
  rfl

/-- The reply that is read of an open stream is the first in its outbox. -/
lemma Sound.take (h : journal.Sound) (hstream : journal.scene.streams[number]? = some stream)
    (hport : journal.scene.ports[stream.session]? = some ⟨id, .sse outbox⟩)
    (hannounced : stream.announced = true) (hopen : stream.isOpen = true) {reply : Response}
    {queue : List Response} (hqueue : outbox.queue = reply :: queue) (time : Duration) :
    (journal.read number stream.session { outbox with queue } time (replyEvent reply)).Sound := by
  obtain ⟨id', found, taken, htells⟩ := h.tells hstream
  obtain ⟨rfl, rfl⟩ := port_inj hport htells.port_eq
  have hevents := htells.events_eq
  rw [hannounced] at hevents
  have hsent : (taken ++ [reply]) ++ queue = journal.sentTo stream.session := by
    rw [← htells.taken_append hopen, hqueue, List.append_assoc, List.singleton_append]
  refine h.read hstream hport (by simp [hqueue]) ⟨taken ++ [reply],
    Scene.getElem?_setOutbox_self hport _, htells.isRead_eq, ?_, nofun, ⟨queue, hsent⟩,
    fun _ => hsent⟩
  rw [framesOf_read_self, eventsIn_append, hevents, replyEvent, eventsIn_eventText,
    List.map_append]
  rfl

/-! ### Closings -/

/-- The reader of a stream goes away. The replies that stand in line are refused. -/
def close (journal : Journal) (number : StreamNumber) (session : SessionNumber) (outbox : Outbox) :
    Journal :=
  { journal with
    scene := (journal.scene.setOutbox session outbox.close.1).closeStream number
    postings := journal.postings.map (Posting.refuse (outbox.line.map Prod.fst)) }

/-- A message that is not refused is as it was. -/
lemma getElem?_postings_close {session : SessionNumber} {other : PostingNumber}
    {posting : Posting} (hget : journal.postings[other]? = some posting)
    (hkept : ∀ ticket reply, posting.stage = .waiting ticket reply →
      ticket ∉ outbox.line.map Prod.fst) :
    (journal.close number session outbox).postings[other]? = some posting := by
  obtain ⟨ticket, hmem, reply, hstage, -⟩ | ⟨hrefuse, -⟩ :=
    Posting.refuse_cases (outbox.line.map Prod.fst) posting
  · exact absurd hmem (hkept ticket reply hstage)
  · rw [close, List.getElem?_map, hget, Option.map_some, hrefuse]

/-- A message that is refused is told so, and its outbox is closed. The others are as before. -/
lemma Sound.fits_close (h : journal.Sound) {session : SessionNumber}
    (hport : journal.scene.ports[session]? = some ⟨id, .sse outbox⟩) {other : PostingNumber}
    {found : Posting}
    (hget : (journal.close number session outbox).postings[other]? = some found) :
    ∃ id outbox', (journal.close number session outbox).Fits other found id outbox' := by
  obtain ⟨posting, hposting, rfl⟩ := Option.map_eq_some_iff.1 (List.getElem?_map ▸ hget)
  obtain ⟨id', before, hfits⟩ := h.fits hposting
  obtain ⟨ticket, hticket, reply, hstage, hrefuse⟩ | ⟨hrefuse, hkept⟩ :=
    Posting.refuse_cases (outbox.line.map Prod.fst) posting
  · obtain rfl := h.session_eq_of_waiting hport hticket hposting hstage
    obtain ⟨rfl, rfl⟩ := port_inj hport hfits.port_eq
    rw [hrefuse]
    refine ⟨id, outbox.close.1, Scene.getElem?_setOutbox_self hport _, hfits.posts, nofun,
      fun hanswered => .inr ?_⟩
    cases hanswered
    exact ⟨rfl, nofun, rfl⟩
  · rw [hrefuse]
    by_cases hsession : posting.session = session
    · obtain ⟨rfl, rfl⟩ := port_inj hport (hsession ▸ hfits.port_eq)
      refine ⟨id, outbox.close.1, hfits.mono rfl
        (hsession ▸ Scene.getElem?_setOutbox_self hport _) (fun hstage hline => ?_)
        (fun _ => rfl) le_rfl (List.Subset.refl _)⟩
      exact absurd (List.mem_map_of_mem hline) (hkept _ _ hstage)
    · exact ⟨id', before, hfits.of_port rfl
        ((Scene.getElem?_setOutbox_ne hsession _).trans hfits.port_eq) le_rfl
        (List.Subset.refl _)⟩

/-- A journal stays sound when the reader of a stream goes away. -/
theorem Sound.close (h : journal.Sound) (hstream : journal.scene.streams[number]? = some stream)
    (hport : journal.scene.ports[stream.session]? = some ⟨id, .sse outbox⟩) :
    (journal.close number stream.session outbox).Sound where
  tells {other found} hfound := by
    obtain ⟨rfl, rfl⟩ | ⟨hother, hfound⟩ := getElem?_modify_cases hstream hfound
    · obtain ⟨id', _, taken, htells⟩ := h.tells hstream
      obtain ⟨rfl, rfl⟩ := port_inj hport htells.port_eq
      exact ⟨id, _, taken, Scene.getElem?_setOutbox_self hport _, rfl, htells.events_eq,
        htells.taken_eq_nil, htells.taken_prefix, nofun⟩
    · obtain ⟨id', outbox', taken, htells⟩ := h.tells hfound
      have hsession : found.session ≠ stream.session := fun hsession =>
        hother (h.streams_inj hfound hstream hsession)
      exact ⟨id', outbox', taken,
        htells.of_eq rfl (Scene.getElem?_setOutbox_ne hsession _) rfl rfl⟩
  streams_inj := h.streams_inj_modify hstream rfl
  holds {session id' outbox'} hport' := by
    by_cases hsession : session = stream.session
    · subst hsession
      obtain ⟨-, rfl⟩ := port_inj (Scene.getElem?_setOutbox_self hport _) hport'
      exact ⟨(h.holds hport).capacity_eq, Nat.zero_le _, List.nodup_nil, nofun, fun _ => rfl⟩
    · have hport'' := (Scene.getElem?_setOutbox_ne hsession _).symm.trans hport'
      refine (h.holds hport'').of_postings fun _ hget => ?_
      refine getElem?_postings_close hget fun ticket reply hstage hticket => ?_
      exact hsession (h.session_eq_of_waiting hport hticket hget hstage)
  fits := h.fits_close hport
  tickets_inj hget hget' hstage hstage' := by
    obtain ⟨posting, hposting, rfl⟩ := Option.map_eq_some_iff.1 (List.getElem?_map ▸ hget)
    obtain ⟨posting', hposting', rfl⟩ := Option.map_eq_some_iff.1 (List.getElem?_map ▸ hget')
    exact h.tickets_inj hposting hposting' (Posting.stage_of_refuse hstage)
      (Posting.stage_of_refuse hstage')
  sent_answered entry hentry := by
    obtain ⟨arrival, response, hget, hstatus⟩ := h.sent_answered entry hentry
    exact ⟨arrival, response, getElem?_postings_close hget nofun, hstatus⟩
  ids_nodup := (Scene.ids_setOutbox _ _).symm ▸ h.ids_nodup
  sent_nodup := h.sent_nodup
  frames_lt frame hframe := by
    rw [Journal.close, Scene.closeStream, List.length_modify]
    exact h.frames_lt frame hframe

end Journal

end WorldClock
