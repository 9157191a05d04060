import WorldClock.Proofs.Hub.Ledger
/-!
# Steps of a run

Whatever happens to a server, its ledger stays true (`Run.Tracks.step`), as long as every request
comes with an id that was never given out.
-/

namespace WorldClock

/-- A happening that is known to end or start no session. -/
structure Happening.IsCalm (happening : Happening) : Prop where
  not_request : ∀ arrival, happening ≠ .request arrival
  not_close : ∀ number, happening ≠ .close number
  not_sweep : happening ≠ .sweep
  not_clear : happening ≠ .clear

namespace Run.Tracks

variable {config : Config} {given : List String} {run : Run} {ledger : Ledger}

/-! ### Steps that start nothing -/

lemma not_starts_of_not_request {entry : Entry}
    (h : ∀ arrival, entry.happening ≠ .request arrival) (role : Role) (id : String) :
    ¬ role.Starts config id entry := by
  cases role with
  | stream number => rintro ⟨arrival, _, hrequest, _⟩; exact h arrival hrequest
  | stranded => rintro ⟨arrival, _, hrequest, _⟩; exact h arrival hrequest
  | rpc => rintro ⟨arrival, _, _, _, hrequest, _⟩; exact h arrival hrequest

lemma not_uses_of_not_request {entry : Entry}
    (h : ∀ arrival, entry.happening ≠ .request arrival) (id : String) :
    ¬ entry.Uses config id := by
  rintro (hopens | ⟨arrival, hrequest, -⟩)
  · exact not_starts_of_not_request h .rpc id hopens
  · exact h arrival hrequest

lemma keeps_close_iff {number : StreamNumber} {role : Role} {id : String} {time : Duration}
    {reaction : Option Reaction} {announcement : Option String} {past : List Entry} :
    role.Keeps config id ⟨time, .close number, reaction, announcement⟩ past ↔
      role ≠ .stream number := by
  cases role with
  | stream number' => simp [Role.Keeps, eq_comm]
  | stranded => simp [Role.Keeps]
  | rpc => simp [Role.Keeps, Entry.Deletes, Entry.Sweeps]

lemma keeps_sweep_iff {entry : Entry} (h : entry.happening = .sweep) {role : Role} {id : String}
    {past : List Entry} :
    role.Keeps config id entry past ↔ (role = .rpc → ¬ entry.Sweeps config past id) := by
  cases role with
  | stream number => simp [Role.Keeps, h]
  | stranded => simp [Role.Keeps, h]
  | rpc => simp [Role.Keeps, Entry.Deletes, h]

lemma not_keeps_clear {role : Role} {id : String} {entry : Entry}
    (h : entry.happening = .clear) (past : List Entry) : ¬ role.Keeps config id entry past := by
  cases role with
  | stream number => exact fun hkeeps => hkeeps.2 h
  | stranded => exact fun hkeeps => hkeeps h
  | rpc => exact fun hkeeps => hkeeps.2.2 h

/-- A step that the registry does not see leaves the ledger as it is. -/
lemma of_quiet (h : run.Tracks config given ledger) {hub' : Hub} {entry : Entry}
    (hconfig : hub'.config = run.hub.config) (htime : run.hub.time ≤ hub'.time)
    (hentry : entry.time = run.hub.time) (hbadges : hub'.sessions.badges = run.hub.sessions.badges)
    (hlinks : hub'.links = run.hub.links)
    (hstarts : ∀ (role : Role) id, ¬ role.Starts config id entry)
    (hkeeps : ∀ row ∈ ledger, row.1.registered = true →
      row.2.Keeps config row.1.id entry run.history)
    (hused : ∀ badge, (badge, .rpc) ∈ ledger → badge.registered = true →
      ¬ entry.Uses config badge.id) :
    Tracks config given ⟨hub', entry :: run.history⟩ ledger := by
  have htracks := h.of_change id hconfig htime hentry (hbadges.trans (List.map_id _).symm)
    (fun _ => ⟨rfl, rfl, fun hreg => hreg⟩) (congrArg _ hlinks) hstarts
    (fun row hrow hreg => iff_of_true hreg (hkeeps row hrow hreg))
    (fun badge number _ _ ⟨link, hlink, hopen⟩ => ⟨link, hlinks ▸ hlink, hopen⟩)
    (fun badge hrow hreg huse => huse.cons_of_not_uses (hused badge hrow hreg))
  simpa using htracks

/-! ### Requests -/

section Request

variable {arrival : Arrival} {time : Duration} {announcement : Option String} {role : Role}
  {id : String}

lemma starts_stream_iff {response : HttpResponse} {number : StreamNumber} :
    role.Starts config id
        ⟨time, .request arrival, some (.stream response number), announcement⟩ ↔
      role = .stream number ∧ arrival.Asks config "GET" "/sse" ∧
        announcement = some (eventText "endpoint" (endpointUrl config.publicUrl id)) := by
  cases role with
  | stream number' =>
    simp only [Role.Starts, Entry.Announces, Role.stream.injEq]
    constructor
    · rintro ⟨_, _, hrequest, hasks, hreaction, hannounces⟩
      cases hrequest
      cases hreaction
      exact ⟨rfl, hasks, hannounces⟩
    · rintro ⟨rfl, hasks, hannounces⟩
      exact ⟨arrival, response, rfl, hasks, rfl, hannounces⟩
  | stranded => simp [Role.Starts, Entry.Strands]
  | rpc => simp [Role.Starts, Entry.Opens]

lemma starts_stopped_iff {cause : Breakdown} :
    role.Starts config id ⟨time, .request arrival, some (.stopped cause), announcement⟩ ↔
      role = .stranded ∧ arrival.Connects config ∧ id = arrival.freshId := by
  cases role with
  | stream number => simp [Role.Starts, Entry.Announces]
  | stranded => simp [Role.Starts, Entry.Strands, eq_comm]
  | rpc => simp [Role.Starts, Entry.Opens]

lemma eq_rpc_of_starts_response {response : HttpResponse}
    (h : role.Starts config id ⟨time, .request arrival, some (.response response), announcement⟩) :
    role = .rpc ∧ response.Issues id := by
  cases role with
  | stream number => simp [Role.Starts, Entry.Announces] at h
  | stranded => simp [Role.Starts, Entry.Strands] at h
  | rpc =>
    obtain ⟨_, _, _, _, -, -, -, -, -, hreaction, hissues, -⟩ := h
    cases hreaction
    exact ⟨rfl, hissues⟩

lemma not_starts_waiting {ticket : Ticket} :
    ¬ role.Starts config id ⟨time, .request arrival, some (.waiting ticket), announcement⟩ := by
  cases role <;> simp [Role.Starts, Entry.Announces, Entry.Strands, Entry.Opens]

/-- A reaction that gives out nothing starts nothing, unless a stream was asked for in vain. -/
lemma not_starts_of_plain {reaction : Reaction} (hplain : reaction.IsPlain)
    (hconnects : arrival.Connects config → ∀ cause, reaction ≠ .stopped cause) :
    ¬ role.Starts config id ⟨time, .request arrival, some reaction, announcement⟩ := by
  intro hstarts
  cases reaction with
  | response response => exact hplain id (eq_rpc_of_starts_response hstarts).2
  | stream response number => exact hplain
  | waiting ticket => exact not_starts_waiting hstarts
  | stopped cause => exact hconnects (starts_stopped_iff.1 hstarts).2.1 cause rfl

/-- A request ends a session only if it is to end it. -/
lemma keeps_request_iff {reaction : Option Reaction} {past : List Entry} :
    role.Keeps config id ⟨time, .request arrival, reaction, announcement⟩ past ↔
      (role = .rpc → ¬ arrival.Deletes config id) := by
  cases role with
  | stream number => simp [Role.Keeps]
  | stranded => simp [Role.Keeps]
  | rpc => simp [Role.Keeps, Entry.Deletes, Entry.Sweeps]

/-- A request uses a session only if it posts in it, unless it opens it. -/
lemma not_uses_of_not_posts {reaction : Option Reaction}
    (hstarts : ¬ Role.rpc.Starts config id ⟨time, .request arrival, reaction, announcement⟩)
    (hposts : ¬ arrival.Posts config id) :
    ¬ Entry.Uses config ⟨time, .request arrival, reaction, announcement⟩ id := by
  rintro (hopens | ⟨_, hrequest, hposts'⟩)
  · exact hstarts hopens
  · cases hrequest
    exact hposts hposts'

end Request

/-! ### Courses -/

section Course

variable {arrival : Arrival} {announcement : Option String} {hub' : Hub}

/-- A stream is opened with its session. -/
lemma of_connected (h : run.Tracks config given ledger) (hfresh : arrival.freshId ∉ given)
    {response : HttpResponse} (hasks : arrival.Asks config "GET" "/sse")
    (hserved : config.transport.servesStreams = true)
    (hopens : run.hub.Opens hub' arrival.freshId .sse
      (run.hub.links ++ [(run.hub.sessions.length, true)])) :
    ∃ ledger', Tracks config (given ++ [arrival.freshId])
      ⟨hub', ⟨run.hub.time, .request arrival, some (.stream response run.hub.streams.length),
        some (eventText "endpoint" (endpointUrl config.publicUrl arrival.freshId))⟩ ::
        run.history⟩ ledger' := by
  refine ⟨_, h.of_open (.stream run.hub.streams.length) hopens rfl hfresh (.inl ⟨rfl, hserved⟩)
    nofun (fun role id => ?_) (fun row _ => ?_) (fun badge _ => ?_) (fun number link hlink => ?_)
    (fun number hrole => ?_) (fun number hnumber => ?_)⟩
  · rw [starts_stream_iff, and_iff_right hasks, Option.some_inj,
      (announcement_injective config.publicUrl).eq_iff]
    exact and_congr_right fun _ => eq_comm
  · refine keeps_request_iff.2 fun _ hdeletes => ?_
    exact absurd (hdeletes.asks.path_unique hasks) (by decide)
  · refine not_uses_of_not_posts (fun hstarts => ?_) (fun hposts => ?_)
    · cases (starts_stream_iff.1 hstarts).1
    · exact absurd (hposts.asks.path_unique hasks) (by decide)
  · rw [List.getElem?_append_left (List.getElem?_eq_some_iff.1 hlink).1, hlink]
  · cases hrole
    rw [← run.hub.length_links, List.getElem?_append_right le_rfl, Nat.sub_self]
    rfl
  · rw [List.length_append, List.length_singleton, Nat.lt_succ_iff_lt_or_eq,
      Hub.length_links] at hnumber
    rw [Hub.length_links]
    exact hnumber.imp_right fun heq => congrArg Role.stream heq.symm

/-- A session is left without a stream. -/
lemma of_stranded (h : run.Tracks config given ledger) (hfresh : arrival.freshId ∉ given)
    (cause : Breakdown) (hconnects : arrival.Connects config)
    (hserved : config.transport.servesStreams = true)
    (hcr : '\r' ∈ (endpointUrl config.publicUrl arrival.freshId).toList)
    (hopens : run.hub.Opens hub' arrival.freshId .sse run.hub.links) :
    ∃ ledger', Tracks config (given ++ [arrival.freshId])
      ⟨hub', ⟨run.hub.time, .request arrival, some (.stopped cause), announcement⟩ ::
        run.history⟩ ledger' := by
  refine ⟨_, h.of_open .stranded hopens rfl hfresh (.inl ⟨rfl, hserved⟩) (fun _ => hcr)
    (fun role id => ?_) (fun row _ => ?_) (fun badge _ => ?_) (fun _ _ hlink => hlink)
    (fun _ hrole => ?_) (fun _ hnumber => .inl hnumber)⟩
  · rw [starts_stopped_iff, and_iff_right hconnects]
  · refine keeps_request_iff.2 fun _ hdeletes => ?_
    exact absurd (hconnects.path_eq.symm.trans hdeletes.asks.path_eq) (by decide)
  · refine not_uses_of_not_posts (fun hstarts => ?_) (fun hposts => ?_)
    · cases (starts_stopped_iff.1 hstarts).1
    · exact absurd (hconnects.path_eq.symm.trans hposts.asks.path_eq) (by decide)
  · cases hrole

/-- A session is opened that is answered at once. -/
lemma of_greeted (h : run.Tracks config given ledger) (hfresh : arrival.freshId ∉ given)
    {response : HttpResponse} {request : Request} {result : Json}
    (hasks : arrival.Asks config "POST" "/http") (hserved : config.transport.servesHttp = true)
    (hheader : arrival.request.header? sessionHeader = none)
    (hrequest : Request.ofBytes? arrival.request.body = some request)
    (hmethod : request.method = "initialize")
    (hissues : ∀ id, response.Issues id ↔ id = arrival.freshId)
    (hbody : response.body = (Response.json ⟨request.id, .result result⟩).text)
    (hopens : run.hub.Opens hub' arrival.freshId .http run.hub.links) :
    ∃ ledger', Tracks config (given ++ [arrival.freshId])
      ⟨hub', ⟨run.hub.time, .request arrival, some (.response response), announcement⟩ ::
        run.history⟩ ledger' := by
  refine ⟨_, h.of_open .rpc hopens rfl hfresh (.inr ⟨rfl, hserved⟩) nofun (fun role id => ?_)
    (fun row _ => ?_) (fun badge hrow => ?_) (fun _ _ hlink => hlink) (fun _ hrole => ?_)
    (fun _ hnumber => .inl hnumber)⟩
  · constructor
    · intro hstarts
      obtain ⟨hrole, hissued⟩ := eq_rpc_of_starts_response hstarts
      exact ⟨hrole, (hissues id).1 hissued⟩
    · rintro ⟨rfl, rfl⟩
      exact ⟨arrival, request, response, result, rfl, hasks, hheader, hrequest, hmethod, rfl,
        (hissues _).2 rfl, hbody⟩
  · exact keeps_request_iff.2 fun _ => Hub.not_deletes_of_post hasks _
  · refine not_uses_of_not_posts (fun hstarts => ?_) (fun hposts => ?_)
    · have hid := (hissues _).1 (eq_rpc_of_starts_response hstarts).2
      exact hfresh (hid ▸ h.ids_given _ hrow)
    · rw [hposts.names] at hheader
      cases hheader
  · cases hrole

/-- A session is used. -/
lemma of_used (h : run.Tracks config given ledger) {reaction : Reaction} {id : String}
    (hposts : arrival.Posts config id) (hplain : reaction.IsPlain)
    (hbecomes : run.hub.Becomes hub'
      (run.hub.sessions.badges.map (Badge.changeIf id .http (Badge.touch run.hub.time)))
      run.hub.links) :
    ∃ ledger', Tracks config given
      ⟨hub', ⟨run.hub.time, .request arrival, some reaction, announcement⟩ :: run.history⟩
      ledger' := by
  have hstarts : ∀ (role : Role) id', ¬ role.Starts config id'
      ⟨run.hub.time, .request arrival, some reaction, announcement⟩ := fun _ _ =>
    not_starts_of_plain hplain fun hconnects =>
      absurd (hconnects.path_eq.symm.trans hposts.asks.path_eq) (by decide)
  refine ⟨_, h.of_change (Badge.changeIf id .http (Badge.touch run.hub.time)) hbecomes.config
    hbecomes.time.symm.le rfl hbecomes.badges ((Badge.isTame_touch _).changeIf _ _)
    (congrArg _ hbecomes.links) hstarts (fun row _ hreg => ?_) (fun _ _ _ _ hopen => ?_)
    (fun badge hrow hreg huse => ?_)⟩
  · refine iff_of_true ?_ (keeps_request_iff.2 fun _ => Hub.not_deletes_of_post hposts.asks _)
    rw [Badge.registered_changeIf_touch]
    exact hreg
  · rw [Hub.IsOpen, hbecomes.links]
    exact hopen
  · -- The session that is posted in has been used just now, and no other.
    by_cases hid : badge.id = id
    · have hanswers : badge.answersTo id .http = true :=
        Badge.answersTo_iff.2 ⟨by simpa using hreg, hid, (h.fits _ hrow).kind⟩
      have huses : Entry.Uses config
          ⟨run.hub.time, .request arrival, some reaction, announcement⟩ id :=
        .inr ⟨arrival, rfl, hposts⟩
      rw [Badge.changeIf_of_answersTo _ hanswers, hid]
      exact LastUse.cons_of_uses huses h.times
    · have hanswers : ¬ badge.answersTo id .http = true := fun hanswers =>
        hid (Badge.answersTo_iff.1 hanswers).2.1
      rw [Badge.changeIf_of_not_answersTo _ hanswers]
      exact huse.cons_of_not_uses (not_uses_of_not_posts (hstarts _ _) fun hposts' =>
        hid (hposts'.id_unique hposts))

/-- A session is ended. -/
lemma of_ended (h : run.Tracks config given ledger) {reaction : Reaction} {id : String}
    (hdeletes : arrival.Deletes config id) (hplain : reaction.IsPlain)
    (hbecomes : run.hub.Becomes hub'
      (run.hub.sessions.badges.map (Badge.changeIf id .http Badge.forget)) run.hub.links) :
    ∃ ledger', Tracks config given
      ⟨hub', ⟨run.hub.time, .request arrival, some reaction, announcement⟩ :: run.history⟩
      ledger' := by
  have hstarts : ∀ (role : Role) id', ¬ role.Starts config id'
      ⟨run.hub.time, .request arrival, some reaction, announcement⟩ := fun _ _ =>
    not_starts_of_plain hplain fun hconnects =>
      absurd (hconnects.path_eq.symm.trans hdeletes.asks.path_eq) (by decide)
  refine ⟨_, h.of_change (Badge.changeIf id .http Badge.forget) hbecomes.config
    hbecomes.time.symm.le rfl hbecomes.badges (Badge.isTame_forget.changeIf _ _)
    (congrArg _ hbecomes.links) hstarts (fun row hrow hreg => ?_) (fun _ _ _ _ hopen => ?_)
    (fun badge _ hreg huse => ?_)⟩
  · rw [keeps_request_iff, Badge.registered_changeIf_forget, and_iff_right hreg,
      Badge.answersTo_iff, and_iff_right hreg, (h.fits row hrow).kind]
    constructor
    · intro hnot hrole hdeletes'
      exact hnot ⟨hdeletes'.id_unique hdeletes, hrole ▸ rfl⟩
    · rintro hkeeps ⟨rfl, hkind⟩
      exact hkeeps (Role.eq_rpc_of_kind hkind) hdeletes
  · rw [Hub.IsOpen, hbecomes.links]
    exact hopen
  · rw [Badge.changeIf_of_not_answersTo _ (Badge.registered_changeIf_forget.1 hreg).2]
    exact huse.cons_of_not_uses
      (not_uses_of_not_posts (hstarts _ _) (Hub.not_posts_of_delete hdeletes.asks _))

/-- A request keeps the ledger true, which gets one more row if a session is opened. -/
theorem step_request (h : run.Tracks config given ledger) {arrival : Arrival}
    (hfresh : arrival.freshId ∉ given) :
    ∃ ledger', Tracks config (given ++ [arrival.freshId]) (run.step (.request arrival))
      ledger' := by
  obtain rfl := h.config_eq
  have hcourse := Hub.Course.of_request h.sound fun _ => h.notMem_ids hfresh
  rw [step_eq]
  dsimp only [Hub.undergo]
  generalize (run.hub.request arrival).1 = hub', (run.hub.request arrival).2 = reaction
    at hcourse ⊢
  cases hcourse with
  | quiet hquiet hplain hconnects hmessage hrpc hspares =>
    refine ⟨ledger, mono (h.of_quiet hquiet.config hquiet.time.symm.le rfl hquiet.badges
      hquiet.links (fun _ _ => not_starts_of_plain hplain hconnects) ?_ ?_) _⟩
    · intro row hrow hreg
      refine keeps_request_iff.2 fun hrole hdeletes => (hrpc _ (.inr hdeletes)).2 ?_
      have hresolves := h.resolves_of_mem hrow hreg
      rw [hrole] at hresolves
      exact hresolves
    · intro badge hrow hreg
      refine not_uses_of_not_posts (not_starts_of_plain hplain hconnects) fun hposts => ?_
      exact (hrpc _ (.inl hposts)).2 (h.resolves_of_mem hrow hreg)
  | connected response hasks hserved hopens hannounces =>
    dsimp only [Hub.announcementIn?]
    rw [hannounces]
    exact h.of_connected hfresh hasks hserved hopens
  | stranded cause hconnects hserved hcr hopens =>
    exact h.of_stranded hfresh cause hconnects hserved hcr hopens
  | greeted result hasks hserved hheader hrequest hmethod hissues hbody hopens =>
    exact h.of_greeted hfresh hasks hserved hheader hrequest hmethod hissues hbody hopens
  | used hposts hresolves hplain hknown hbecomes hspares =>
    obtain ⟨ledger', htracks⟩ := h.of_used hposts hplain hbecomes
    exact ⟨ledger', htracks.mono _⟩
  | ended hdeletes hresolves hplain hknown hbecomes hspares =>
    obtain ⟨ledger', htracks⟩ := h.of_ended hdeletes hplain hbecomes
    exact ⟨ledger', htracks.mono _⟩

end Course

/-! ### Readers that go away -/

/-- The session to which an open stream leads is the only one with its role. -/
lemma answersTo_iff_role_eq (h : run.Tracks config given ledger) {number : StreamNumber}
    {stream : EventStream} {session : Session}
    (hstream : run.hub.stream? number = some (stream, session)) {badge : Badge} {role : Role}
    (hrow : (badge, role) ∈ ledger) :
    badge.answersTo session.id .sse = true ↔
      badge.registered = true ∧ role = .stream number := by
  obtain ⟨hget, -, hsession⟩ := Hub.exists_of_stream hstream
  have hlink : run.hub.links[number]? = some (stream.session, stream.isOpen) := by
    rw [Hub.links, List.getElem?_map, hget, Option.map_some]
  have hbadge : run.hub.sessions.badges[stream.session]? = some session.badge := by
    rw [Sessions.badges, List.getElem?_map, hsession, Option.map_some]
  have hleads : ∀ id, run.hub.LeadsTo number id → id = session.id := by
    rintro id ⟨link, found, hlink', hfound, rfl⟩
    cases hlink.symm.trans hlink'
    cases hbadge.symm.trans hfound
    rfl
  rw [Badge.answersTo_iff]
  refine and_congr_right fun _ => ?_
  constructor
  · rintro ⟨hid, -⟩
    obtain ⟨badge', hrow'⟩ := h.streams number (List.getElem?_eq_some_iff.1 hlink).1
    have hid' : badge'.id = session.id := hleads _ ((h.fits _ hrow').leads number rfl).1
    exact congrArg Prod.snd (h.eq_of_id_eq hrow hrow' (hid.trans hid'.symm))
  · rintro rfl
    exact ⟨hleads _ ((h.fits _ hrow).leads number rfl).1, (h.fits _ hrow).kind⟩

/-- The session of a stream whose reader is gone is gone too. -/
lemma not_registered_of_none (h : run.Tracks config given ledger) {number : StreamNumber}
    (hstream : run.hub.stream? number = none) {badge : Badge}
    (hrow : (badge, .stream number) ∈ ledger) : ¬ badge.registered = true := by
  intro hreg
  obtain ⟨⟨link, badge', hlink, hbadge, -⟩, hopen⟩ := (h.fits _ hrow).leads number rfl
  obtain ⟨link', hlink', hisOpen⟩ := hopen hreg
  cases hlink.symm.trans hlink'
  obtain ⟨stream, hget, rfl⟩ := Option.map_eq_some_iff.1 ((List.getElem?_map ..).symm.trans hlink)
  obtain ⟨session, hsession, -⟩ :=
    Option.map_eq_some_iff.1 ((List.getElem?_map ..).symm.trans hbadge)
  dsimp only at hisOpen hsession
  simp [Hub.stream?, hget, hisOpen, hsession] at hstream

/-- When the reader of a stream goes away, the ledger stays true. -/
theorem step_close (h : run.Tracks config given ledger) (number : StreamNumber) :
    ∃ ledger', Tracks config given (run.step (.close number)) ledger' := by
  have hnot : ∀ arrival, Happening.close number ≠ .request arrival := nofun
  cases hstream : run.hub.stream? number with
  | none =>
    have hhub := Hub.closeStream_of_none hstream
    refine ⟨ledger, h.of_quiet ?_ ?_ rfl ?_ ?_ (not_starts_of_not_request hnot) ?_
      fun badge _ _ => not_uses_of_not_request hnot badge.id⟩
    · exact congrArg Hub.config hhub
    · exact (congrArg Hub.time hhub).symm.le
    · exact congrArg (fun hub => hub.sessions.badges) hhub
    · exact congrArg Hub.links hhub
    · rintro ⟨badge, role⟩ hrow hreg
      refine keeps_close_iff.2 fun hrole => ?_
      -- Only the going away of its reader makes a stream impossible to look up.
      subst hrole
      exact h.not_registered_of_none hstream hrow hreg
  | some entry =>
    obtain ⟨stream, session⟩ := entry
    have hbecomes := Hub.becomes_closeStream h.sound.ids_nodup hstream
    refine ⟨_, h.of_change (Badge.changeIf session.id .sse Badge.forget) hbecomes.config
      hbecomes.time.symm.le rfl hbecomes.badges (Badge.isTame_forget.changeIf _ _) ?_
      (not_starts_of_not_request hnot) ?_ ?_ ?_⟩
    · refine (congrArg (List.map Prod.fst) hbecomes.links).trans (List.ext_getElem? fun k => ?_)
      rw [List.getElem?_map, List.getElem?_map, List.getElem?_modify]
      cases run.hub.links[k]? with
      | none => rfl
      | some link => split_ifs <;> rfl
    · intro row hrow hreg
      rw [keeps_close_iff, Badge.registered_changeIf_forget, and_iff_right hreg,
        h.answersTo_iff_role_eq hstream hrow, and_iff_right hreg]
    · rintro badge number' hrow hreg ⟨link, hlink, hopen⟩
      have hne : number ≠ number' := by
        rintro rfl
        obtain ⟨hreg', hnot'⟩ := Badge.registered_changeIf_forget.1 hreg
        exact hnot' ((h.answersTo_iff_role_eq hstream hrow).2 ⟨hreg', rfl⟩)
      refine ⟨link, ?_, hopen⟩
      rw [show Hub.links _ = _ from hbecomes.links, List.getElem?_modify, hlink]
      simp [hne]
    · intro badge hrow hreg huse
      rw [Badge.changeIf_of_not_answersTo _ (Badge.registered_changeIf_forget.1 hreg).2]
      exact huse.cons_of_not_uses (not_uses_of_not_request hnot badge.id)

/-! ### Ends of many sessions -/

/-- When idle sessions are ended, the ledger stays true. -/
theorem step_sweep (h : run.Tracks config given ledger) :
    ∃ ledger', Tracks config given (run.step .sweep) ledger' := by
  obtain rfl := h.config_eq
  have hnot : ∀ arrival, Happening.sweep ≠ .request arrival := nofun
  refine ⟨_, h.of_change (Badge.expire .http run.hub.config.sessionTtl run.hub.time) rfl le_rfl rfl
    (Sessions.badges_evictIdle _ _ _ _) (Badge.isTame_expire _ _ _) rfl
    (not_starts_of_not_request hnot) ?_ (fun _ _ _ _ hopen => hopen) ?_⟩
  · rintro ⟨badge, role⟩ hrow hreg
    rw [keeps_sweep_iff rfl]
    have hkind : badge.kind = role.kind := (h.fits _ hrow).kind
    by_cases hrole : role = .rpc
    · subst hrole
      have hhttp : badge.kind = .http := hkind
      have huse := (h.fits _ hrow).used rfl hreg
      -- The last use is past, so that nothing is cut off when its time is subtracted.
      obtain ⟨use, hmem, -, hseen⟩ := huse.used
      have hle : badge.lastSeen ≤ run.hub.time := hseen ▸ h.times use hmem
      rw [Badge.registered_expire hhttp, and_iff_right hreg, huse.sweeps_iff rfl,
        imp_iff_right rfl, ← Nat.not_le, Nat.le_sub_iff_add_le' hle]
    · have hsse : badge.kind ≠ .http := fun hhttp =>
        hrole (Role.eq_rpc_of_kind (hkind.symm.trans hhttp))
      rw [Badge.expire_of_kind_ne hsse]
      exact iff_of_true hreg fun hrpc => absurd hrpc hrole
  · intro badge _ _ huse
    rw [Badge.lastSeen_expire]
    exact huse.cons_of_not_uses (not_uses_of_not_request hnot badge.id)

/-- When the registry is cleared, the ledger stays true. -/
theorem step_clear (h : run.Tracks config given ledger) :
    ∃ ledger', Tracks config given (run.step .clear) ledger' := by
  have hnot : ∀ arrival, Happening.clear ≠ .request arrival := nofun
  refine ⟨_, h.of_change Badge.forget rfl le_rfl rfl (Sessions.badges_clear _)
    Badge.isTame_forget rfl (not_starts_of_not_request hnot) ?_ ?_ ?_⟩
  · intro row _ _
    exact iff_of_false Bool.false_ne_true (not_keeps_clear rfl _)
  · intro _ _ _ hreg
    cases hreg
  · intro _ _ hreg
    cases hreg

/-! ### Steps of all kinds -/

/-- Calm happenings leave the ledger as it is. -/
lemma of_calm (h : run.Tracks config given ledger) (happening : Happening)
    (hcalm : happening.IsCalm) {hub' : Hub} (hconfig : hub'.config = run.hub.config)
    (htime : run.hub.time ≤ hub'.time) (hbadges : hub'.sessions.badges = run.hub.sessions.badges)
    (hlinks : hub'.links = run.hub.links) :
    Tracks config given ⟨hub', ⟨run.hub.time, happening, none, none⟩ :: run.history⟩ ledger := by
  refine h.of_quiet hconfig htime rfl hbadges hlinks (not_starts_of_not_request hcalm.not_request)
    ?_ fun badge _ _ => not_uses_of_not_request hcalm.not_request badge.id
  rintro ⟨badge, role⟩ _ _
  cases role with
  | stream number => exact ⟨hcalm.not_close number, hcalm.not_clear⟩
  | stranded => exact hcalm.not_clear
  | rpc =>
    refine ⟨?_, ?_, hcalm.not_clear⟩
    · rintro ⟨arrival, hrequest, -⟩
      exact hcalm.not_request arrival hrequest
    · rintro ⟨hsweep, -⟩
      exact hcalm.not_sweep hsweep

/-- Whatever happens, the ledger stays true. -/
theorem step (h : run.Tracks config given ledger) (happening : Happening)
    (hfresh : ∀ id ∈ happening.freshId?, id ∉ given) :
    ∃ ledger', Tracks config (given ++ happening.freshId?.toList) (run.step happening) ledger' := by
  cases happening with
  | request arrival => exact h.step_request (hfresh _ rfl)
  | look number =>
    have hquiet := Hub.quiet_look run.hub number
    exact ⟨_, (h.of_calm (.look number) ⟨nofun, nofun, nofun, nofun⟩ hquiet.config
      hquiet.time.symm.le hquiet.badges hquiet.links).mono _⟩
  | close number =>
    obtain ⟨ledger', htracks⟩ := h.step_close number
    exact ⟨ledger', htracks.mono _⟩
  | abandon ticket =>
    have hquiet := Hub.quiet_abandon run.hub ticket
    exact ⟨_, (h.of_calm (.abandon ticket) ⟨nofun, nofun, nofun, nofun⟩ hquiet.config
      hquiet.time.symm.le hquiet.badges hquiet.links).mono _⟩
  | wait duration =>
    refine ⟨ledger, mono (h.of_calm (.wait duration) ⟨nofun, nofun, nofun, nofun⟩ ?_ ?_ ?_ ?_) _⟩
    · rfl
    · exact Nat.le_add_right _ _
    · rfl
    · rfl
  | sweep =>
    obtain ⟨ledger', htracks⟩ := h.step_sweep
    exact ⟨ledger', htracks.mono _⟩
  | clear =>
    obtain ⟨ledger', htracks⟩ := h.step_clear
    exact ⟨ledger', htracks.mono _⟩
  | setClock clock =>
    refine ⟨ledger, mono (h.of_calm (.setClock clock) ⟨nofun, nofun, nofun, nofun⟩ ?_ ?_ ?_ ?_) _⟩
    · rfl
    · exact le_rfl
    · rfl
    · rfl

end Run.Tracks

namespace Run

lemma tracks_start (config : Config) (clock : Instant) (zones : ZoneTable) :
    (start config clock zones).Tracks config [] [] where
  config_eq := rfl
  badges_eq := rfl
  ids_nodup := List.nodup_nil
  ids_given _ hrow := absurd hrow List.not_mem_nil
  times _ hmem := absurd hmem List.not_mem_nil
  started _ hmem := absurd hmem List.not_mem_nil
  once := .nil
  streams number hnumber := absurd hnumber (Nat.not_lt_zero number)
  fits _ hrow := absurd hrow List.not_mem_nil

lemma freshIds_concat (happenings : List Happening) (happening : Happening) :
    freshIds (happenings ++ [happening]) = freshIds happenings ++ happening.freshId?.toList := by
  rw [freshIds, List.filterMap_append]
  cases h : happening.freshId? <;> simp [freshIds, h]

/-- Whatever has happened to a server, as long as no id was given twice, its registry agrees with
what was seen. -/
theorem exists_tracks (config : Config) (clock : Instant) (zones : ZoneTable)
    (happenings : List Happening) (hfresh : (freshIds happenings).Nodup) :
    ∃ ledger, ((start config clock zones).after happenings).Tracks config (freshIds happenings)
      ledger := by
  induction happenings using List.reverseRecOn with
  | nil => exact ⟨[], tracks_start config clock zones⟩
  | append_singleton happenings happening ih =>
    rw [freshIds_concat, List.nodup_append] at hfresh
    obtain ⟨ledger, htracks⟩ := ih hfresh.1
    rw [after_concat, freshIds_concat]
    refine htracks.step happening fun id hid hgiven => ?_
    exact hfresh.2.2 id hgiven id (Option.mem_toList.2 hid) rfl

end Run

end WorldClock
