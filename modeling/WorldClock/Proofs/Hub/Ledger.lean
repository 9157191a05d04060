import WorldClock.Proofs.Hub.Run
/-!
# The ledger of sessions

The invariant that ties the registry to what was seen. Each session that was ever opened has a role,
which is noted beside its badge, and its badge is registered exactly as long as what was seen keeps
the role alive (`Run.Tracks`). Whatever happens changes all badges in one way, or adds a session.
-/

namespace WorldClock

/-! ### Roles -/

/-- What a session is there for. -/
inductive Role
  /-- To send replies on the stream with a number. -/
  | stream (number : StreamNumber)
  /-- To send replies on a stream that never came to be. -/
  | stranded
  /-- To answer messages at once. -/
  | rpc

namespace Role

/-- The kind of the sessions with a role. -/
def kind : Role → SessionKind
  | stream _ | stranded => .sse
  | rpc => .http

lemma eq_rpc_of_kind {role : Role} (h : role.kind = .http) : role = .rpc := by
  cases role with
  | stream number => cases h
  | stranded => cases h
  | rpc => rfl

/-- What brings a session with an id into a role. -/
def Starts (config : Config) (id : String) : Role → Entry → Prop
  | stream number, entry => entry.Announces config number id
  | stranded, entry => entry.Strands config id
  | rpc, entry => entry.Opens config id

/-- What leaves a session with an id in a role. -/
def Keeps (config : Config) (id : String) : Role → Entry → List Entry → Prop
  | stream number, entry, _ => entry.happening ≠ .close number ∧ entry.happening ≠ .clear
  | stranded, entry, _ => entry.happening ≠ .clear
  | rpc, entry, past =>
    ¬ entry.Deletes config id ∧ ¬ entry.Sweeps config past id ∧ entry.happening ≠ .clear

/-- Whether a session with an id is in a role, by what was seen. -/
def IsAlive (config : Config) (id : String) (role : Role) (history : List Entry) : Prop :=
  Since (role.Starts config id) (role.Keeps config id) history

lemma isAlive_cons (config : Config) (id : String) (role : Role) (entry : Entry)
    (past : List Entry) : role.IsAlive config id (entry :: past) ↔
      role.Starts config id entry ∨ role.Keeps config id entry past ∧
        role.IsAlive config id past := Iff.rfl

/-- A role that is alive was started. -/
lemma exists_starts_of_isAlive {config : Config} {id : String} {role : Role}
    {history : List Entry} (h : role.IsAlive config id history) :
    ∃ entry ∈ history, role.Starts config id entry := by
  induction history with
  | nil => exact h.elim
  | cons entry past ih =>
    obtain hstarts | ⟨-, halive⟩ := h
    · exact ⟨entry, List.mem_cons_self, hstarts⟩
    · obtain ⟨earlier, hmem, hstarts⟩ := ih halive
      exact ⟨earlier, List.mem_cons_of_mem _ hmem, hstarts⟩

end Role

/-! ### Uses -/

/-- An id was last used at some time. -/
structure LastUse (config : Config) (id : String) (time : Duration) (history : List Entry) :
    Prop where
  used : ∃ use ∈ history, use.Uses config id ∧ use.time = time
  last : ∀ use ∈ history, use.Uses config id → use.time ≤ time

lemma LastUse.cons_of_not_uses {config : Config} {id : String} {time : Duration}
    {history : List Entry} (h : LastUse config id time history) {entry : Entry}
    (hentry : ¬ entry.Uses config id) : LastUse config id time (entry :: history) where
  used := by
    obtain ⟨use, hmem, huse⟩ := h.used
    exact ⟨use, List.mem_cons_of_mem _ hmem, huse⟩
  last use hmem huse := by
    obtain rfl | hmem := List.mem_cons.1 hmem
    · exact absurd huse hentry
    · exact h.last use hmem huse

lemma LastUse.cons_of_uses {config : Config} {id : String} {history : List Entry} {entry : Entry}
    (hentry : entry.Uses config id) (hpast : ∀ use ∈ history, use.time ≤ entry.time) :
    LastUse config id entry.time (entry :: history) where
  used := ⟨entry, List.mem_cons_self, hentry, rfl⟩
  last use hmem _ := by
    obtain rfl | hmem := List.mem_cons.1 hmem
    · exact le_rfl
    · exact hpast use hmem

/-- Whether the session with an id has been idle too long shows in its last use. -/
lemma LastUse.sweeps_iff {config : Config} {id : String} {time : Duration} {history : List Entry}
    (h : LastUse config id time history) {entry : Entry} (hsweep : entry.happening = .sweep) :
    entry.Sweeps config history id ↔ time + config.sessionTtl ≤ entry.time := by
  constructor
  · rintro ⟨-, hidle⟩
    obtain ⟨use, hmem, huse, rfl⟩ := h.used
    exact hidle use hmem huse
  · intro hidle
    exact ⟨hsweep, fun use hmem huse => (Nat.add_le_add_right (h.last use hmem huse) _).trans hidle⟩

/-! ### The invariant -/

namespace Hub

/-- Whether a stream leads to the session with an id. -/
def LeadsTo (hub : Hub) (number : StreamNumber) (id : String) : Prop :=
  ∃ link badge, hub.links[number]? = some link ∧ hub.sessions.badges[link.1]? = some badge ∧
    badge.id = id

/-- Whether the reader of a stream is still there. -/
def IsOpen (hub : Hub) (number : StreamNumber) : Prop :=
  ∃ link, hub.links[number]? = some link ∧ link.2 = true

end Hub

/-- The sessions, each with its badge and its role. -/
abbrev Ledger := List (Badge × Role)

/-- Whether a badge agrees with a role and with what was seen. -/
structure Run.Fits (config : Config) (run : Run) (badge : Badge) (role : Role) : Prop where
  kind : badge.kind = role.kind
  served : badge.kind = .sse ∧ config.transport.servesStreams = true ∨
    badge.kind = .http ∧ config.transport.servesHttp = true
  alive : badge.registered = true ↔ role.IsAlive config badge.id run.history
  leads : ∀ number, role = .stream number →
    run.hub.LeadsTo number badge.id ∧ (badge.registered = true → run.hub.IsOpen number)
  used : role = .rpc → badge.registered = true →
    LastUse config badge.id badge.lastSeen run.history
  cut : role = .stranded → '\r' ∈ (endpointUrl config.publicUrl badge.id).toList

/-- Whether a ledger tells the truth about a run in which some ids were given out. -/
structure Run.Tracks (config : Config) (given : List String) (run : Run) (ledger : Ledger) :
    Prop where
  config_eq : run.hub.config = config
  badges_eq : run.hub.sessions.badges = ledger.map Prod.fst
  ids_nodup : (ledger.map fun row => row.1.id).Nodup
  ids_given : ∀ row ∈ ledger, row.1.id ∈ given
  times : ∀ entry ∈ run.history, entry.time ≤ run.hub.time
  started : ∀ entry ∈ run.history, ∀ role id, role.Starts config id entry →
    ∃ badge, (badge, role) ∈ ledger ∧ badge.id = id
  once : run.history.Pairwise fun entry earlier => ∀ (role role' : Role) (id : String),
    role.Starts config id entry → ¬ role'.Starts config id earlier
  streams : ∀ number < run.hub.links.length, ∃ badge, (badge, .stream number) ∈ ledger
  fits : ∀ row ∈ ledger, run.Fits config row.1 row.2

namespace Run.Tracks

variable {config : Config} {given : List String} {run : Run} {ledger : Ledger}

lemma ids_eq (h : run.Tracks config given ledger) :
    run.hub.sessions.ids = ledger.map fun row => row.1.id := by
  rw [Sessions.ids_eq_map_badges, h.badges_eq, List.map_map]
  rfl

lemma sound (h : run.Tracks config given ledger) : run.hub.Sound where
  ids_nodup := h.ids_eq ▸ h.ids_nodup
  served badge hbadge := by
    rw [h.badges_eq] at hbadge
    obtain ⟨row, hrow, rfl⟩ := List.mem_map.1 hbadge
    rw [h.config_eq]
    exact (h.fits row hrow).served

lemma notMem_ids (h : run.Tracks config given ledger) {id : String} (hid : id ∉ given) :
    id ∉ run.hub.sessions.ids := by
  rw [h.ids_eq]
  intro hmem
  obtain ⟨row, hrow, rfl⟩ := List.mem_map.1 hmem
  exact hid (h.ids_given row hrow)

/-- Rows with the same id are the same. -/
lemma eq_of_id_eq (h : run.Tracks config given ledger) {row row' : Badge × Role}
    (hrow : row ∈ ledger) (hrow' : row' ∈ ledger) (hid : row.1.id = row'.1.id) : row = row' :=
  List.inj_on_of_nodup_map h.ids_nodup hrow hrow' hid

lemma resolves_of_mem (h : run.Tracks config given ledger) {row : Badge × Role}
    (hrow : row ∈ ledger) (hregistered : row.1.registered = true) :
    run.hub.sessions.Resolves row.1.id row.2.kind := by
  refine ⟨row.1, ?_, Badge.answersTo_iff.2 ⟨hregistered, rfl, (h.fits row hrow).kind⟩⟩
  rw [h.badges_eq]
  exact List.mem_map_of_mem hrow

/-- An id leads to a session exactly if what was seen keeps a role alive for it. -/
theorem resolves_iff (h : run.Tracks config given ledger) (id : String) (kind : SessionKind) :
    run.hub.sessions.Resolves id kind ↔
      ∃ role : Role, role.kind = kind ∧ role.IsAlive config id run.history := by
  constructor
  · rintro ⟨badge, hbadge, hanswers⟩
    rw [h.badges_eq] at hbadge
    obtain ⟨row, hrow, rfl⟩ := List.mem_map.1 hbadge
    obtain ⟨hregistered, rfl, rfl⟩ := Badge.answersTo_iff.1 hanswers
    have hfits := h.fits row hrow
    exact ⟨row.2, hfits.kind.symm, hfits.alive.1 hregistered⟩
  · rintro ⟨role, rfl, halive⟩
    obtain ⟨entry, hmem, hstarts⟩ := Role.exists_starts_of_isAlive halive
    obtain ⟨badge, hrow, rfl⟩ := h.started entry hmem role id hstarts
    exact h.resolves_of_mem hrow ((h.fits _ hrow).alive.2 halive)

/-! ### Changes of all badges -/

lemma leadsTo_of_change {hub hub' : Hub} {change : Badge → Badge}
    (hbadges : hub'.sessions.badges = hub.sessions.badges.map change)
    (hid : ∀ badge, (change badge).id = badge.id)
    (hlinks : hub'.links.map Prod.fst = hub.links.map Prod.fst) {number : StreamNumber}
    {id : String} (h : hub.LeadsTo number id) : hub'.LeadsTo number id := by
  obtain ⟨link, badge, hlink, hbadge, rfl⟩ := h
  have hfst : (hub'.links[number]?).map Prod.fst = some link.1 := by
    rw [← List.getElem?_map, hlinks, List.getElem?_map, hlink, Option.map_some]
  obtain ⟨link', hlink', hfst⟩ := Option.map_eq_some_iff.1 hfst
  refine ⟨link', change badge, hlink', ?_, hid badge⟩
  rw [hbadges, List.getElem?_map, hfst, hbadge, Option.map_some]

/-- A badge fits after a tame change if it is registered as long as its role is kept. -/
lemma fits_of_change {badge : Badge} {role : Role} (hfits : run.Fits config badge role)
    {hub' : Hub} {entry : Entry} {change : Badge → Badge} (hchange : Badge.IsTame change)
    (hbadges : hub'.sessions.badges = run.hub.sessions.badges.map change)
    (hlinks : hub'.links.map Prod.fst = run.hub.links.map Prod.fst)
    (hstarts : ¬ role.Starts config badge.id entry)
    (hkeeps : badge.registered = true →
      ((change badge).registered = true ↔ role.Keeps config badge.id entry run.history))
    (hopen : ∀ number, role = .stream number → (change badge).registered = true →
      run.hub.IsOpen number → hub'.IsOpen number)
    (hused : role = .rpc → (change badge).registered = true →
      LastUse config badge.id badge.lastSeen run.history →
      LastUse config badge.id (change badge).lastSeen (entry :: run.history)) :
    Run.Fits config ⟨hub', entry :: run.history⟩ (change badge) role := by
  obtain ⟨hid, hkind, hregistered⟩ := hchange badge
  constructor
  case kind => exact hkind.trans hfits.kind
  case served => exact hkind ▸ hfits.served
  case alive =>
    rw [hid, Role.isAlive_cons, or_iff_right hstarts, ← hfits.alive]
    constructor
    · intro hreg
      exact ⟨(hkeeps (hregistered hreg)).1 hreg, hregistered hreg⟩
    · rintro ⟨hkeep, hreg⟩
      exact (hkeeps hreg).2 hkeep
  case leads =>
    intro number hrole
    obtain ⟨hleads, hisOpen⟩ := hfits.leads number hrole
    have hleads' := leadsTo_of_change hbadges (fun badge => (hchange badge).1) hlinks hleads
    exact ⟨hid ▸ hleads', fun hreg => hopen number hrole hreg (hisOpen (hregistered hreg))⟩
  case used =>
    intro hrole hreg
    exact hid ▸ hused hrole hreg (hfits.used hrole (hregistered hreg))
  case cut => exact hid ▸ hfits.cut

/-- A step that starts no session and changes all badges in the same way. -/
lemma of_change (h : run.Tracks config given ledger) {hub' : Hub} {entry : Entry}
    (change : Badge → Badge) (hconfig : hub'.config = run.hub.config)
    (htime : run.hub.time ≤ hub'.time) (hentry : entry.time = run.hub.time)
    (hbadges : hub'.sessions.badges = run.hub.sessions.badges.map change)
    (hchange : Badge.IsTame change)
    (hlinks : hub'.links.map Prod.fst = run.hub.links.map Prod.fst)
    (hstarts : ∀ (role : Role) id, ¬ role.Starts config id entry)
    (hkeeps : ∀ row ∈ ledger, row.1.registered = true →
      ((change row.1).registered = true ↔ row.2.Keeps config row.1.id entry run.history))
    (hopen : ∀ badge number, (badge, .stream number) ∈ ledger →
      (change badge).registered = true → run.hub.IsOpen number → hub'.IsOpen number)
    (hused : ∀ badge, (badge, .rpc) ∈ ledger → (change badge).registered = true →
      LastUse config badge.id badge.lastSeen run.history →
      LastUse config badge.id (change badge).lastSeen (entry :: run.history)) :
    Tracks config given ⟨hub', entry :: run.history⟩
      (ledger.map fun row => (change row.1, row.2)) where
  config_eq := hconfig.trans h.config_eq
  badges_eq := by
    rw [hbadges, h.badges_eq, List.map_map, List.map_map]
    rfl
  ids_nodup := by
    have hids : (ledger.map fun row => (change row.1, row.2)).map (fun row => row.1.id) =
        ledger.map fun row => row.1.id := by
      rw [List.map_map]
      exact List.map_congr_left fun row _ => (hchange row.1).1
    rw [hids]
    exact h.ids_nodup
  ids_given := List.forall_mem_map.2 fun row hrow => (hchange row.1).1 ▸ h.ids_given row hrow
  times := List.forall_mem_cons.2
    ⟨hentry.le.trans htime, fun earlier hmem => (h.times earlier hmem).trans htime⟩
  started := by
    refine List.forall_mem_cons.2 ⟨fun role id hstart => absurd hstart (hstarts role id), ?_⟩
    intro earlier hmem role id hstart
    obtain ⟨badge, hrow, rfl⟩ := h.started earlier hmem role id hstart
    exact ⟨change badge, List.mem_map_of_mem hrow, (hchange badge).1⟩
  once := List.pairwise_cons.2
    ⟨fun _ _ role _ id hstart => absurd hstart (hstarts role id), h.once⟩
  streams := by
    intro number hnumber
    have hlength : hub'.links.length = run.hub.links.length := by
      simpa using congrArg List.length hlinks
    obtain ⟨badge, hrow⟩ := h.streams number (hlength ▸ hnumber)
    exact ⟨change badge, List.mem_map_of_mem hrow⟩
  fits := List.forall_mem_map.2 fun row hrow =>
    fits_of_change (h.fits row hrow) hchange hbadges hlinks (hstarts row.2 row.1.id)
      (hkeeps row hrow) (fun number hrole => hopen row.1 number (hrole ▸ hrow))
      fun hrole => hused row.1 (hrole ▸ hrow)

/-- More ids may be given out than are used. -/
lemma mono (h : run.Tracks config given ledger) (more : List String) :
    run.Tracks config (given ++ more) ledger :=
  { h with ids_given := fun row hrow => List.mem_append_left more (h.ids_given row hrow) }

/-! ### Additions of sessions -/

/-- A badge still fits after another session has been opened. -/
lemma fits_of_opens {badge : Badge} {role : Role} (hfits : run.Fits config badge role)
    {hub' : Hub} {entry : Entry} {id : String} {kind : SessionKind}
    {links : List (SessionNumber × Bool)} (hopens : run.hub.Opens hub' id kind links)
    (hstarts : ¬ role.Starts config badge.id entry)
    (hkeeps : role.Keeps config badge.id entry run.history)
    (huses : role = .rpc → ¬ entry.Uses config badge.id)
    (hlinks : ∀ (number : StreamNumber) link, run.hub.links[number]? = some link →
      links[number]? = some link) :
    Run.Fits config ⟨hub', entry :: run.history⟩ badge role := by
  have hlinks' : ∀ (number : StreamNumber) link, run.hub.links[number]? = some link →
      hub'.links[number]? = some link := by
    rw [hopens.links]
    exact hlinks
  constructor
  case kind => exact hfits.kind
  case served => exact hfits.served
  case alive =>
    rw [Role.isAlive_cons, or_iff_right hstarts, and_iff_right hkeeps]
    exact hfits.alive
  case leads =>
    intro number hrole
    obtain ⟨⟨link, found, hlink, hfound, hid⟩, hisOpen⟩ := hfits.leads number hrole
    refine ⟨⟨link, found, hlinks' number link hlink, ?_, hid⟩, fun hreg => ?_⟩
    · rw [hopens.badges, List.getElem?_append_left (List.getElem?_eq_some_iff.1 hfound).1, hfound]
    · obtain ⟨link', hlink', hopen⟩ := hisOpen hreg
      exact ⟨link', hlinks' number link' hlink', hopen⟩
  case used =>
    intro hrole hreg
    exact (hfits.used hrole hreg).cons_of_not_uses (huses hrole)
  case cut => exact hfits.cut

/-- The badge of a session that has just been opened fits. -/
lemma fits_opened {hub' : Hub} {entry : Entry} {id : String}
    {links : List (SessionNumber × Bool)} {role : Role}
    (hopens : run.hub.Opens hub' id role.kind links) (hentry : entry.time = run.hub.time)
    (hpast : ∀ earlier ∈ run.history, earlier.time ≤ run.hub.time)
    (hserved : role.kind = .sse ∧ config.transport.servesStreams = true ∨
      role.kind = .http ∧ config.transport.servesHttp = true)
    (hcut : role = .stranded → '\r' ∈ (endpointUrl config.publicUrl id).toList)
    (hstarts : role.Starts config id entry)
    (hnew : ∀ number, role = .stream number →
      links[number]? = some (run.hub.sessions.length, true)) :
    Run.Fits config ⟨hub', entry :: run.history⟩ ⟨id, role.kind, true, run.hub.time⟩ role := by
  have hlength : run.hub.sessions.badges.length = run.hub.sessions.length := List.length_map _
  constructor
  case kind => rfl
  case served => exact hserved
  case alive => exact iff_of_true rfl (.inl hstarts)
  case leads =>
    intro number hrole
    have hlink : hub'.links[number]? = some (run.hub.sessions.length, true) := by
      rw [hopens.links]
      exact hnew number hrole
    refine ⟨⟨_, ⟨id, role.kind, true, run.hub.time⟩, hlink, ?_, rfl⟩, fun _ => ⟨_, hlink, rfl⟩⟩
    rw [hopens.badges, List.getElem?_append_right hlength.le, hlength, Nat.sub_self]
    rfl
  case used =>
    intro hrole _
    subst hrole
    rw [← hentry] at hpast ⊢
    exact LastUse.cons_of_uses (.inl hstarts) hpast
  case cut => exact hcut

/-- A step that starts one session and leaves all others as they are. -/
lemma of_open (h : run.Tracks config given ledger) {hub' : Hub} {entry : Entry} {id : String}
    {links : List (SessionNumber × Bool)} (role : Role)
    (hopens : run.hub.Opens hub' id role.kind links) (hentry : entry.time = run.hub.time)
    (hfresh : id ∉ given)
    (hserved : role.kind = .sse ∧ config.transport.servesStreams = true ∨
      role.kind = .http ∧ config.transport.servesHttp = true)
    (hcut : role = .stranded → '\r' ∈ (endpointUrl config.publicUrl id).toList)
    (hstarts : ∀ role' id', Role.Starts config id' role' entry ↔ role' = role ∧ id' = id)
    (hkeeps : ∀ row ∈ ledger, row.2.Keeps config row.1.id entry run.history)
    (huses : ∀ badge, (badge, .rpc) ∈ ledger → ¬ entry.Uses config badge.id)
    (hlinks : ∀ (number : StreamNumber) link, run.hub.links[number]? = some link →
      links[number]? = some link)
    (hnew : ∀ number, role = .stream number →
      links[number]? = some (run.hub.sessions.length, true))
    (hall : ∀ number < links.length, number < run.hub.links.length ∨ role = .stream number) :
    Tracks config (given ++ [id]) ⟨hub', entry :: run.history⟩
      (ledger ++ [(⟨id, role.kind, true, run.hub.time⟩, role)]) := by
  have hnotMem : ∀ row ∈ ledger, row.1.id ≠ id := fun row hrow heq =>
    hfresh (heq ▸ h.ids_given row hrow)
  constructor
  case config_eq => exact hopens.config.trans h.config_eq
  case badges_eq => simp [hopens.badges, h.badges_eq]
  case ids_nodup =>
    rw [List.map_append, List.nodup_append]
    refine ⟨h.ids_nodup, by simp, ?_⟩
    intro id' hid' id'' hid''
    obtain ⟨row, hrow, rfl⟩ := List.mem_map.1 hid'
    rw [List.map_cons, List.map_nil, List.mem_singleton] at hid''
    exact hid'' ▸ hnotMem row hrow
  case ids_given =>
    refine List.forall_mem_append.2 ⟨fun row hrow => ?_, fun row hrow => ?_⟩
    · exact List.mem_append_left _ (h.ids_given row hrow)
    · rw [List.mem_singleton.1 hrow]
      exact List.mem_append_right _ (List.mem_singleton_self id)
  case times =>
    refine List.forall_mem_cons.2 ⟨?_, fun earlier hmem => ?_⟩
    · exact (hentry.trans hopens.time.symm).le
    · exact (h.times earlier hmem).trans hopens.time.symm.le
  case started =>
    refine List.forall_mem_cons.2
      ⟨fun role' id' hstart => ?_, fun earlier hmem role' id' hstart => ?_⟩
    · obtain ⟨rfl, rfl⟩ := (hstarts role' id').1 hstart
      exact ⟨_, List.mem_append_right _ (List.mem_singleton_self _), rfl⟩
    · obtain ⟨badge, hrow, rfl⟩ := h.started earlier hmem role' id' hstart
      exact ⟨badge, List.mem_append_left _ hrow, rfl⟩
  case once =>
    -- What was started before under the new id would be a row with an id that was given out.
    refine List.pairwise_cons.2 ⟨fun earlier hmem role' role'' id' hstart' hearlier => ?_, h.once⟩
    obtain ⟨badge, hrow, hid⟩ := h.started earlier hmem role'' id' hearlier
    exact hnotMem _ hrow (hid.trans ((hstarts role' id').1 hstart').2)
  case streams =>
    intro number hnumber
    rw [show Hub.links _ = _ from hopens.links] at hnumber
    obtain hlt | hrole := hall number hnumber
    · obtain ⟨badge, hrow⟩ := h.streams number hlt
      exact ⟨badge, List.mem_append_left _ hrow⟩
    · rw [hrole]
      exact ⟨_, List.mem_append_right _ (List.mem_singleton_self _)⟩
  case fits =>
    refine List.forall_mem_append.2 ⟨fun row hrow => ?_, fun row hrow => ?_⟩
    · exact fits_of_opens (h.fits row hrow) hopens
        (fun hstart => hnotMem row hrow ((hstarts _ _).1 hstart).2) (hkeeps row hrow)
        (fun hrole => huses row.1 (hrole ▸ hrow)) hlinks
    · rw [List.mem_singleton.1 hrow]
      exact fits_opened hopens hentry h.times hserved hcut ((hstarts role id).2 ⟨rfl, rfl⟩) hnew

end Run.Tracks

end WorldClock
