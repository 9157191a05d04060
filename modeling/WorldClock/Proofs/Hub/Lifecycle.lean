import WorldClock.Proofs.Hub.Steps
import WorldClock.Proofs.Time.Range
/-!
# The life of sessions

Which ids lead to a session can be told from what was seen of the server, in whatever order streams
are opened and closed, messages are posted, and sessions are ended, swept, and cleared
(`Run.lifecycle`). What happens on one surface leaves alone the sessions of the other.

There is one kind of session that nobody was told of. If the address for messages holds a carriage
return, it cannot be written into an event, and the request for a stream comes to a stop. By then
the session has been registered, and it stays when the stream is gone.
-/

namespace WorldClock

/-! ### Surfaces -/

/-- Whether a happening has to do with streams. -/
def Happening.OnStreams : Happening → Prop
  | .request arrival => arrival.path = "/sse" ∨ arrival.path = "/messages"
  | .look _ | .close _ | .abandon _ => True
  | .wait _ | .sweep | .clear | .setClock _ => False

/-- Whether a happening has to do with messages that are answered at once. -/
def Happening.OnRpc : Happening → Prop
  | .request arrival => arrival.path = "/http"
  | .sweep => True
  | .look _ | .close _ | .abandon _ | .wait _ | .clear | .setClock _ => False

namespace Hub

/-- A session of a kind has been opened under an id, and nothing else happened to the sessions. -/
def Adds (hub hub' : Hub) (id : String) (kind : SessionKind) : Prop :=
  ∃ session, hub'.sessions = hub.sessions ++ [session] ∧ session.id = id ∧
    session.kind = kind ∧ session.registered = true

/-! ### Known ids -/

/-- A message for a stream is refused exactly if its id leads nowhere. -/
lemma isUnknown_iff_of_postsForStream {hub : Hub} (hsound : hub.Sound) {arrival : Arrival}
    {id : String} (hposts : arrival.PostsForStream hub.config id) :
    (hub.request arrival).2.IsUnknown ↔ ¬ hub.sessions.Resolves id .sse := by
  have htakes : ¬ arrival.TakesId := by
    rintro (hsse | ⟨hhttp, -⟩)
    · exact absurd (hsse.symm.trans hposts.asks.path_eq) (by decide)
    · exact absurd (hhttp.symm.trans hposts.asks.path_eq) (by decide)
  have hcourse := Course.of_request hsound fun h => absurd h htakes
  generalize (hub.request arrival).1 = hub', (hub.request arrival).2 = reaction at hcourse ⊢
  cases hcourse with
  | quiet hquiet hplain hconnects hmessage hrpc hspares => exact hmessage id hposts
  | connected response hasks hserved hopens hannounces =>
    exact absurd (hasks.path_unique hposts.asks) (by decide)
  | stranded cause hconnects hserved hcr hopens =>
    exact absurd (hconnects.path_eq.symm.trans hposts.asks.path_eq) (by decide)
  | greeted result hasks hserved hheader hrequest hmethod hissues hbody hopens =>
    exact absurd (hasks.path_unique hposts.asks) (by decide)
  | used hposts' hresolves hplain hknown hbecomes hspares =>
    exact absurd (hposts'.asks.path_unique hposts.asks) (by decide)
  | ended hdeletes hresolves hplain hknown hbecomes hspares =>
    exact absurd (hdeletes.asks.path_unique hposts.asks) (by decide)

/-- A message to be answered at once, or a wish to end its session, is refused exactly if its id
leads nowhere. -/
lemma isUnknown_iff_of_posts_or_deletes {hub : Hub} (hsound : hub.Sound) {arrival : Arrival}
    {id : String} (h : arrival.Posts hub.config id ∨ arrival.Deletes hub.config id) :
    (hub.request arrival).2.IsUnknown ↔ ¬ hub.sessions.Resolves id .http := by
  obtain ⟨method, hasks⟩ : ∃ method, arrival.Asks hub.config method "/http" :=
    h.elim (fun hposts => ⟨_, hposts.asks⟩) fun hdeletes => ⟨_, hdeletes.asks⟩
  have hnames : arrival.request.header? sessionHeader = some id :=
    h.elim (fun hposts => hposts.names) fun hdeletes => hdeletes.names
  have htakes : ¬ arrival.TakesId := by
    rintro (hsse | ⟨-, hheader⟩)
    · exact absurd (hsse.symm.trans hasks.path_eq) (by decide)
    · cases hheader.symm.trans hnames
  have hcourse := Course.of_request hsound fun h => absurd h htakes
  generalize (hub.request arrival).1 = hub', (hub.request arrival).2 = reaction at hcourse ⊢
  cases hcourse with
  | quiet hquiet hplain hconnects hmessage hrpc hspares =>
    obtain ⟨hunknown, hresolves⟩ := hrpc id h
    exact iff_of_true hunknown hresolves
  | connected response hasks' hserved hopens hannounces =>
    exact absurd (hasks'.path_unique hasks) (by decide)
  | stranded cause hconnects hserved hcr hopens =>
    exact absurd (hconnects.path_eq.symm.trans hasks.path_eq) (by decide)
  | greeted result hasks' hserved hheader hrequest hmethod hissues hbody hopens =>
    cases hheader.symm.trans hnames
  | used hposts hresolves hplain hknown hbecomes hspares =>
    cases hposts.names.symm.trans hnames
    exact iff_of_false hknown (not_not_intro hresolves)
  | ended hdeletes hresolves hplain hknown hbecomes hspares =>
    cases hdeletes.names.symm.trans hnames
    exact iff_of_false hknown (not_not_intro hresolves)

/-- Where messages are answered at once, an id is given out exactly if a session is opened. -/
lemma issues_iff_adds {hub hub' : Hub} {arrival : Arrival} {reaction : Reaction}
    (hcourse : hub.Course arrival hub' reaction)
    (hpath : arrival.path = "/http") (id : String) :
    (∃ response, reaction = .response response ∧ response.Issues id) ↔ hub.Adds hub' id .http := by
  have hplain : reaction.IsPlain →
      ¬ ∃ response, reaction = .response response ∧ response.Issues id := by
    rintro hplain ⟨response, rfl, hissues⟩
    exact hplain id hissues
  have hlength : hub'.sessions.length = hub.sessions.length → ¬ hub.Adds hub' id .http := by
    rintro hlength ⟨session, hsessions, -⟩
    rw [hsessions, List.length_append, List.length_singleton] at hlength
    exact Nat.succ_ne_self _ hlength
  have hbadges : ∀ {change : Badge → Badge},
      hub'.sessions.badges = hub.sessions.badges.map change →
      hub'.sessions.length = hub.sessions.length := by
    intro change heq
    simpa [Sessions.badges] using congrArg List.length heq
  cases hcourse with
  | quiet hquiet hplain' hconnects hmessage hrpc hspares =>
    exact iff_of_false (hplain hplain') (hlength (congrArg List.length (hspares hpath)))
  | connected response hasks hserved hopens hannounces =>
    exact absurd (hasks.path_eq.symm.trans hpath) (by decide)
  | stranded cause hconnects hserved hcr hopens =>
    exact absurd (hconnects.path_eq.symm.trans hpath) (by decide)
  | greeted result hasks hserved hheader hrequest hmethod hissues hbody hopens =>
    obtain ⟨session, hsessions, hbadge⟩ := hopens.sessions
    have hid : session.id = arrival.freshId := congrArg Badge.id hbadge
    constructor
    · rintro ⟨response, hresponse, hissued⟩
      cases hresponse
      exact ⟨session, hsessions, hid.trans ((hissues id).1 hissued).symm,
        congrArg Badge.kind hbadge, congrArg Badge.registered hbadge⟩
    · rintro ⟨session', hsessions', rfl, -⟩
      cases List.append_cancel_left (hsessions'.symm.trans hsessions)
      exact ⟨_, rfl, (hissues _).2 hid⟩
  | used hposts hresolves hplain' hknown hbecomes hspares =>
    exact iff_of_false (hplain hplain') (hlength (hbadges hbecomes.badges))
  | ended hdeletes hresolves hplain' hknown hbecomes hspares =>
    exact iff_of_false (hplain hplain') (hlength (hbadges hbecomes.badges))

/-- A request for a stream is answered with one, unless there is no way to write the address. -/
lemma reaction_of_asks_stream {hub : Hub} {arrival : Arrival}
    (hasks : arrival.Asks hub.config "GET" "/sse")
    (hserved : hub.config.transport.servesStreams = true) :
    ('\r' ∈ (endpointUrl hub.config.publicUrl arrival.freshId).toList →
      ∃ cause, (hub.request arrival).2 = .stopped cause) ∧
    (¬ '\r' ∈ (endpointUrl hub.config.publicUrl arrival.freshId).toList →
      ∃ response number, (hub.request arrival).2 = .stream response number) := by
  have hget : ¬ arrival.request.method = "HEAD" := by
    rw [hasks.method_eq]
    decide
  have hasks' : arrival.Asks hub.config "GET" Route.events.path := hasks
  rw [request_of_asks hasks' (by decide) hserved, ← isSome_carriageReturn_iff 0]
  simp only [serve, announcementFault?, endpoint]
  cases carriageReturn? 0 (endpointUrl hub.config.publicUrl arrival.freshId).toList with
  | none => simp [hget, openStream, Reaction.mapResponse]
  | some position => simp [Reaction.mapResponse]

/-! ### Other surfaces -/

/-- A request on the surface with streams leaves alone the sessions that are answered at once. -/
lemma Course.spares_http {hub hub' : Hub} {arrival : Arrival} {reaction : Reaction}
    (hcourse : hub.Course arrival hub' reaction)
    (hpath : arrival.path = "/sse" ∨ arrival.path = "/messages") :
    Sessions.Spares .http hub.sessions hub'.sessions := by
  have hne : arrival.path ≠ "/http" := by
    obtain hsse | hmessages := hpath
    · rw [hsse]
      decide
    · rw [hmessages]
      decide
  cases hcourse with
  | quiet hquiet hplain hconnects hmessage hrpc hspares => exact hquiet.spares
  | connected response hasks hserved hopens hannounces =>
    obtain ⟨session, hsessions, -⟩ := hopens.sessions
    exact hsessions ▸ Sessions.spares_append _ _ _
  | stranded cause hconnects hserved hcr hopens =>
    obtain ⟨session, hsessions, -⟩ := hopens.sessions
    exact hsessions ▸ Sessions.spares_append _ _ _
  | greeted result hasks hserved hheader hrequest hmethod hissues hbody hopens =>
    exact absurd hasks.path_eq hne
  | used hposts hresolves hplain hknown hbecomes hspares => exact absurd hposts.asks.path_eq hne
  | ended hdeletes hresolves hplain hknown hbecomes hspares =>
    exact absurd hdeletes.asks.path_eq hne

/-- A request that is answered at once leaves alone the sessions of streams. -/
lemma Course.spares_sse {hub hub' : Hub} {arrival : Arrival} {reaction : Reaction}
    (hcourse : hub.Course arrival hub' reaction) (hpath : arrival.path = "/http") :
    Sessions.Spares .sse hub.sessions hub'.sessions := by
  cases hcourse with
  | quiet hquiet hplain hconnects hmessage hrpc hspares => exact hspares hpath ▸ .refl _ _
  | connected response hasks hserved hopens hannounces =>
    exact absurd (hasks.path_eq.symm.trans hpath) (by decide)
  | stranded cause hconnects hserved hcr hopens =>
    exact absurd (hconnects.path_eq.symm.trans hpath) (by decide)
  | greeted result hasks hserved hheader hrequest hmethod hissues hbody hopens =>
    obtain ⟨session, hsessions, -⟩ := hopens.sessions
    exact hsessions ▸ Sessions.spares_append _ _ _
  | used hposts hresolves hplain hknown hbecomes hspares => exact hspares
  | ended hdeletes hresolves hplain hknown hbecomes hspares => exact hspares

end Hub

namespace Run.Tracks

variable {config : Config} {given : List String} {run : Run} {ledger : Ledger}

/-- The course of a request with an id that was never given out. -/
lemma course (h : run.Tracks config given ledger) {arrival : Arrival}
    (hfresh : arrival.freshId ∉ given) :
    run.hub.Course arrival (run.hub.request arrival).1 (run.hub.request arrival).2 :=
  Hub.Course.of_request h.sound fun _ => h.notMem_ids hfresh

/-- What happens to streams leaves alone the sessions that are answered at once. -/
lemma spares_http_step (h : run.Tracks config given ledger) {happening : Happening}
    (hfresh : ∀ id ∈ happening.freshId?, id ∉ given) (hon : happening.OnStreams) :
    Sessions.Spares .http run.hub.sessions (run.step happening).hub.sessions := by
  rw [step_eq]
  cases happening with
  | request arrival => exact (h.course (hfresh _ rfl)).spares_http hon
  | look number => exact (Hub.quiet_look run.hub number).spares
  | close number => exact Hub.spares_closeStream run.hub number
  | abandon ticket => exact (Hub.quiet_abandon run.hub ticket).spares
  | wait duration => cases hon
  | sweep => cases hon
  | clear => cases hon
  | setClock clock => cases hon

/-- What happens to messages that are answered at once leaves alone the sessions of streams. -/
lemma spares_sse_step (h : run.Tracks config given ledger) {happening : Happening}
    (hfresh : ∀ id ∈ happening.freshId?, id ∉ given) (hon : happening.OnRpc) :
    Sessions.Spares .sse run.hub.sessions (run.step happening).hub.sessions := by
  rw [step_eq]
  cases happening with
  | request arrival => exact (h.course (hfresh _ rfl)).spares_sse hon
  | sweep => exact Sessions.spares_evictIdle (by decide) _ _ _
  | look number => cases hon
  | close number => cases hon
  | abandon ticket => cases hon
  | wait duration => cases hon
  | clear => cases hon
  | setClock clock => cases hon

/-! ### Roles of ids -/

/-- An id is brought into one role. -/
lemma role_unique (h : run.Tracks config given ledger) {id : String} {role role' : Role}
    (hstarts : ∃ entry ∈ run.history, role.Starts config id entry)
    (hstarts' : ∃ entry ∈ run.history, role'.Starts config id entry) : role = role' := by
  obtain ⟨entry, hmem, hstarts⟩ := hstarts
  obtain ⟨entry', hmem', hstarts'⟩ := hstarts'
  obtain ⟨badge, hrow, hid⟩ := h.started entry hmem role id hstarts
  obtain ⟨badge', hrow', hid'⟩ := h.started entry' hmem' role' id hstarts'
  exact congrArg Prod.snd (h.eq_of_id_eq hrow hrow' (hid.trans hid'.symm))

lemma resolves_sse_iff (h : run.Tracks config given ledger) (id : String) :
    run.hub.sessions.Resolves id .sse ↔
      Announced config id run.history ∨ Stranded config id run.history := by
  rw [h.resolves_iff]
  constructor
  · rintro ⟨role, hkind, halive⟩
    cases role with
    | stream number => exact .inl ⟨number, halive⟩
    | stranded => exact .inr halive
    | rpc => cases hkind
  · rintro (⟨number, halive⟩ | halive)
    · exact ⟨.stream number, rfl, halive⟩
    · exact ⟨.stranded, rfl, halive⟩

lemma resolves_http_iff (h : run.Tracks config given ledger) (id : String) :
    run.hub.sessions.Resolves id .http ↔ Live config id run.history := by
  rw [h.resolves_iff]
  constructor
  · rintro ⟨role, hkind, halive⟩
    obtain rfl := Role.eq_rpc_of_kind hkind
    exact halive
  · intro halive
    exact ⟨.rpc, rfl, halive⟩

/-- No stream announces a stranded id, the address for which cannot be written. -/
lemma of_isStranded (h : run.Tracks config given ledger) {id : String}
    (hstranded : Stranded config id run.history) :
    ¬ Announced config id run.history ∧ '\r' ∈ (endpointUrl config.publicUrl id).toList := by
  have halive : Role.stranded.IsAlive config id run.history := hstranded
  obtain ⟨entry, hmem, hstarts⟩ := Role.exists_starts_of_isAlive halive
  constructor
  · rintro ⟨number, hannounced⟩
    have hstream : (Role.stream number).IsAlive config id run.history := hannounced
    cases h.role_unique ⟨entry, hmem, hstarts⟩ (Role.exists_starts_of_isAlive hstream)
  · obtain ⟨badge, hrow, rfl⟩ := h.started entry hmem .stranded id hstarts
    exact (h.fits _ hrow).cut rfl

/-- An id for messages that are answered at once has nothing to do with streams. -/
lemma of_isLive (h : run.Tracks config given ledger) {id : String}
    (hlive : Live config id run.history) :
    ¬ Announced config id run.history ∧ ¬ Stranded config id run.history := by
  have halive : Role.rpc.IsAlive config id run.history := hlive
  have hstarts := Role.exists_starts_of_isAlive halive
  constructor
  · rintro ⟨number, hannounced⟩
    have hstream : (Role.stream number).IsAlive config id run.history := hannounced
    cases h.role_unique hstarts (Role.exists_starts_of_isAlive hstream)
  · intro hstranded
    have hstray : Role.stranded.IsAlive config id run.history := hstranded
    cases h.role_unique hstarts (Role.exists_starts_of_isAlive hstray)

/-- A request for a stream announces its id, unless there is no way to write the address. -/
lemma step_of_asks_stream (h : run.Tracks config given ledger) {arrival : Arrival}
    (hfresh : arrival.freshId ∉ given) (hasks : arrival.Asks config "GET" "/sse")
    (hserved : config.transport.servesStreams = true) :
    if '\r' ∈ (endpointUrl config.publicUrl arrival.freshId).toList then
      Stranded config arrival.freshId (run.step (.request arrival)).history
    else Announced config arrival.freshId (run.step (.request arrival)).history := by
  obtain rfl := h.config_eq
  have hcourse := h.course hfresh
  have hreaction := Hub.reaction_of_asks_stream hasks hserved
  rw [step_eq]
  dsimp only [Hub.undergo]
  generalize (run.hub.request arrival).1 = hub', (run.hub.request arrival).2 = reaction
    at hcourse hreaction ⊢
  split_ifs with hcr
  · obtain ⟨cause, rfl⟩ := hreaction.1 hcr
    exact .inl ⟨arrival, cause, rfl, .inl hasks, rfl, rfl⟩
  · obtain ⟨response, number, rfl⟩ := hreaction.2 hcr
    cases hcourse with
    | quiet hquiet hplain hconnects hmessage hrpc hspares => exact hplain.elim
    | connected response hasks' hserved' hopens hannounces =>
      exact ⟨_, .inl ⟨arrival, response, rfl, hasks, rfl, hannounces⟩⟩
    | used hposts hresolves hplain hknown hbecomes hspares => exact hplain.elim
    | ended hdeletes hresolves hplain hknown hbecomes hspares => exact hplain.elim

end Run.Tracks

namespace Run

lemma freshIds_append (earlier later : List Happening) :
    freshIds (earlier ++ later) = freshIds earlier ++ freshIds later :=
  List.filterMap_append

/-- What an id once led to is not found again under it after it has gone. -/
lemma not_resolves_of_gone (config : Config) (clock : Instant) (zones : ZoneTable)
    {first second third : List Happening} (hfresh : (freshIds (first ++ second ++ third)).Nodup)
    {id : String} {kind : SessionKind}
    (hresolves : ((start config clock zones).after first).hub.sessions.Resolves id kind)
    (hgone : ¬ ((start config clock zones).after (first ++ second)).hub.sessions.Resolves id kind)
    (kind' : SessionKind) :
    ¬ ((start config clock zones).after (first ++ second ++ third)).hub.sessions.Resolves id
      kind' := by
  have hfresh' := hfresh
  rw [freshIds_append, List.nodup_append] at hfresh'
  have hfresh'' := hfresh'.1
  rw [freshIds_append, List.nodup_append] at hfresh''
  obtain ⟨ledger, htracks⟩ := exists_tracks config clock zones first hfresh''.1
  obtain ⟨ledger', htracks'⟩ := exists_tracks config clock zones (first ++ second) hfresh'.1
  obtain ⟨ledger'', htracks''⟩ := exists_tracks config clock zones (first ++ second ++ third) hfresh
  obtain ⟨recent, hrecent⟩ := exists_history_eq ((start config clock zones).after first) second
  obtain ⟨recent', hrecent'⟩ :=
    exists_history_eq ((start config clock zones).after (first ++ second)) third
  rw [← after_append] at hrecent hrecent'
  intro hagain
  obtain ⟨role, hkind, halive⟩ := (htracks.resolves_iff id kind).1 hresolves
  obtain ⟨role', hkind', halive'⟩ := (htracks''.resolves_iff id kind').1 hagain
  obtain ⟨entry, hmem, hstarts⟩ := Role.exists_starts_of_isAlive halive
  have hmem' : entry ∈ ((start config clock zones).after (first ++ second)).history :=
    hrecent ▸ List.mem_append_right _ hmem
  have hrole : role = role' := htracks''.role_unique
    ⟨entry, hrecent' ▸ List.mem_append_right _ hmem', hstarts⟩
    (Role.exists_starts_of_isAlive halive')
  subst hrole
  rw [hrecent'] at halive'
  -- Either the id was brought into its role a second time, or it was never gone.
  obtain ⟨again, hlate, hstarts'⟩ | halive' := halive'.or_of_append
  · have honce := htracks''.once
    rw [hrecent'] at honce
    exact (List.pairwise_append.1 honce).2.2 again hlate entry hmem' role role id hstarts' hstarts
  · exact hgone ((htracks'.resolves_iff id kind).2 ⟨role, hkind, halive'⟩)

/-! ### The life of sessions -/

/-- Whatever has happened to a server, as long as no id was given twice: an id is known for messages
on streams exactly if it was announced on a stream that is still open, or else is left over from a
stream that never came to be for want of a way to write its address; an id is known for messages
that are answered at once exactly if it was given out for them and its session has not been ended
since. What happens on one surface leaves alone the sessions of the other, an id is given out for
messages that are answered at once exactly if a session is opened under it, and an id that is gone
stays gone. -/
theorem lifecycle (config : Config) (clock : Instant) (zones : ZoneTable)
    (happenings : List Happening) (hfresh : (freshIds happenings).Nodup) :
    let run := (start config clock zones).after happenings
    (∀ arrival id, arrival.PostsForStream config id →
      (¬ (run.hub.request arrival).2.IsUnknown ↔
        Announced config id run.history ∨ Stranded config id run.history)) ∧
    (∀ id, Stranded config id run.history →
      ¬ Announced config id run.history ∧ '\r' ∈ (endpointUrl config.publicUrl id).toList) ∧
    (∀ arrival, arrival.freshId ∉ freshIds happenings → arrival.Asks config "GET" "/sse" →
      config.transport.servesStreams = true →
      if '\r' ∈ (endpointUrl config.publicUrl arrival.freshId).toList then
        Stranded config arrival.freshId (run.step (.request arrival)).history
      else Announced config arrival.freshId (run.step (.request arrival)).history) ∧
    (∀ arrival id, arrival.Posts config id ∨ arrival.Deletes config id →
      (¬ (run.hub.request arrival).2.IsUnknown ↔ Live config id run.history)) ∧
    (∀ id, Live config id run.history →
      ¬ Announced config id run.history ∧ ¬ Stranded config id run.history) ∧
    (∀ happening : Happening, (∀ id ∈ happening.freshId?, id ∉ freshIds happenings) →
      (happening.OnStreams →
        Sessions.Spares .http run.hub.sessions (run.step happening).hub.sessions) ∧
      (happening.OnRpc →
        Sessions.Spares .sse run.hub.sessions (run.step happening).hub.sessions)) ∧
    (∀ arrival, arrival.freshId ∉ freshIds happenings → arrival.path = "/http" → ∀ id,
      ((∃ response, (run.hub.request arrival).2 = .response response ∧ response.Issues id) ↔
        run.hub.Adds (run.hub.request arrival).1 id .http)) ∧
    (∀ first second third, happenings = first ++ second ++ third → ∀ id kind,
      ((start config clock zones).after first).hub.sessions.Resolves id kind →
      ¬ ((start config clock zones).after (first ++ second)).hub.sessions.Resolves id kind →
      ∀ kind', ¬ run.hub.sessions.Resolves id kind') := by
  intro run
  obtain ⟨ledger, htracks⟩ := exists_tracks config clock zones happenings hfresh
  have hconfig : run.hub.config = config := htracks.config_eq
  refine ⟨fun arrival id hposts => ?_, fun id => htracks.of_isStranded,
    fun arrival => htracks.step_of_asks_stream, fun arrival id hrpc => ?_,
    fun id => htracks.of_isLive,
    fun happening hnew => ⟨htracks.spares_http_step hnew, htracks.spares_sse_step hnew⟩,
    fun arrival hnew hpath id => Hub.issues_iff_adds (htracks.course hnew) hpath id, ?_⟩
  · rw [Hub.isUnknown_iff_of_postsForStream htracks.sound (hconfig.symm ▸ hposts), not_not]
    exact htracks.resolves_sse_iff id
  · rw [Hub.isUnknown_iff_of_posts_or_deletes htracks.sound (hconfig.symm ▸ hrpc), not_not]
    exact htracks.resolves_http_iff id
  · rintro first second third rfl id kind hresolves hgone kind'
    exact not_resolves_of_gone config clock zones hfresh hresolves hgone kind'

lemma inRange_zero : InRange 0 := by
  decide

/-- The first instant of 1970. -/
def epoch : Instant := .ofSecond 0 inRange_zero

/-- A request without headers and a body. -/
def bareArrival (method target freshId : String) : Arrival :=
  ⟨⟨method, target, [], []⟩, freshId, 0⟩

/-- A message for the stream of the session with a certain id. -/
def streamMessage : Arrival := bareArrival "POST" "/messages?sessionId=first" "second"

/-- A server with streams under an address that may be out of order. -/
def streamConfig (publicUrl : Option String) : Config :=
  { Config.standard with transport := .sse, publicUrl }

lemma postsForStream_streamMessage (publicUrl : Option String) :
    streamMessage.PostsForStream (streamConfig publicUrl) "first" where
  asks := ⟨rfl, by decide, rfl⟩
  fits := by decide
  names := ⟨"first".toUTF8.toList, by decide +kernel, by decide +kernel⟩

/-- The messages for a stream that has been opened and closed. -/
theorem lifecycle_of_visit :
    (freshIds [.request (bareArrival "GET" "/sse" "first"), .close 0]).Nodup ∧
      streamMessage.PostsForStream (streamConfig none) "first" ∧
      let run := (start (streamConfig none) epoch).after
        [.request (bareArrival "GET" "/sse" "first"), .close 0]
      ¬ (run.hub.request streamMessage).2.IsUnknown ↔
        Announced (streamConfig none) "first" run.history ∨
          Stranded (streamConfig none) "first" run.history :=
  ⟨by decide, postsForStream_streamMessage none,
    (lifecycle (streamConfig none) epoch Zone.find?
      [.request (bareArrival "GET" "/sse" "first"), .close 0] (by decide)).1 streamMessage "first"
      (postsForStream_streamMessage none)⟩

/-- If there is no way to write the address, an id is known that no stream announced. -/
theorem known_of_unwritable :
    let config := streamConfig (some "http://a\rb")
    let run := (start config epoch).after [.request (bareArrival "GET" "/sse" "first")]
    streamMessage.PostsForStream config "first" ∧
      ¬ (run.hub.request streamMessage).2.IsUnknown ∧
      ¬ Announced config "first" run.history := by
  intro config run
  have hposts : streamMessage.PostsForStream config "first" := postsForStream_streamMessage _
  obtain ⟨ledger, htracks⟩ := exists_tracks config epoch Zone.find? [] List.nodup_nil
  obtain ⟨ledger', htracks'⟩ := exists_tracks config epoch Zone.find?
    [.request (bareArrival "GET" "/sse" "first")] (by decide)
  have hasks : (bareArrival "GET" "/sse" "first").Asks config "GET" "/sse" :=
    ⟨rfl, by decide, rfl⟩
  have hsplit := htracks.step_of_asks_stream List.not_mem_nil hasks rfl
  rw [if_pos (by decide)] at hsplit
  refine ⟨hposts, ?_, (htracks'.of_isStranded hsplit).1⟩
  rw [Hub.isUnknown_iff_of_postsForStream htracks'.sound (htracks'.config_eq.symm ▸ hposts),
    not_not, htracks'.resolves_sse_iff]
  exact .inr hsplit

end Run

end WorldClock
