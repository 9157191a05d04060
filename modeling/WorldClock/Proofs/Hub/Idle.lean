import WorldClock.Proofs.Hub.Uses
import WorldClock.Proofs.Session.Expiry
/-!
# Idle sessions

The badge of each registered session that is answered at once accords with what was seen: it tells
when the session was last used, and no search for idle sessions since then could have ended it
(`Badge.Accords`). So no search ends a session too early, and if the searches are made on time, no
session is idle for long (`Run.idle_expiry`).
-/

namespace WorldClock

/-! ### Searches in passing time -/

namespace Hub

variable {hub : Hub} {duration : Duration}

lemma advance_of_due (hserved : hub.config.transport.servesHttp = true)
    (hdue : hub.time < hub.lastSweep (hub.time + duration)) :
    hub.advance duration =
      { hub.sweep (hub.lastSweep (hub.time + duration)) with time := hub.time + duration } := by
  have hsweeps : (hub.config.transport.servesHttp &&
      decide (hub.time < hub.lastSweep (hub.time + duration))) = true := by
    simp [hserved, hdue]
  rw [advance, if_pos hsweeps]

lemma advance_of_not_due
    (h : ¬ (hub.config.transport.servesHttp = true ∧
      hub.time < hub.lastSweep (hub.time + duration))) :
    hub.advance duration = { hub with time := hub.time + duration } := by
  have hnot : ¬ (hub.config.transport.servesHttp &&
      decide (hub.time < hub.lastSweep (hub.time + duration))) = true := by
    simpa using h
  rw [advance, if_neg hnot]

/-- The time at which the next search for idle sessions is due. -/
def nextSweep (hub : Hub) : Duration :=
  (hub.time / sweepInterval hub.config.sessionTtl + 1) * sweepInterval hub.config.sessionTtl

lemma lt_nextSweep (hub : Hub) : hub.time < hub.nextSweep := by
  rw [nextSweep, Nat.add_one_mul]
  exact Nat.lt_div_mul_add (sweepInterval_pos _)

lemma nextSweep_le {time : Duration} (h : hub.time < hub.lastSweep time) :
    hub.nextSweep ≤ hub.lastSweep time :=
  Nat.mul_le_mul_right _ (Nat.div_lt_of_lt_mul (Nat.mul_comm _ _ ▸ h))

/-- A hub after the next search. -/
def sweepNext (hub : Hub) : Hub :=
  Hub.sweep { hub with time := hub.nextSweep } hub.nextSweep

/-- Of the searches that fall into passing time the first can be made on its own. -/
lemma advance_sweepNext (hserved : hub.config.transport.servesHttp = true)
    (hdue : hub.time < hub.lastSweep (hub.time + duration)) :
    hub.sweepNext.advance (hub.time + duration - hub.nextSweep) = hub.advance duration := by
  have hnext : hub.nextSweep ≤ hub.lastSweep (hub.time + duration) := nextSweep_le hdue
  have hnow : hub.sweepNext.time + (hub.time + duration - hub.nextSweep) = hub.time + duration :=
    Nat.add_sub_cancel' (hnext.trans (Nat.div_mul_le_self _ _))
  rw [advance_of_due hserved hdue]
  obtain hlater | hlast := lt_or_eq_of_le hnext
  · have hserved' : hub.sweepNext.config.transport.servesHttp = true := hserved
    have hdue' : hub.sweepNext.time < hub.sweepNext.lastSweep (hub.time + duration) := hlater
    rw [advance_of_due hserved' (hnow.symm ▸ hdue'), hnow]
    have hsessions := hub.sessions.evictIdle_evictIdle .http hub.config.sessionTtl hnext
    exact congrArg (fun sessions => { hub with time := hub.time + duration, sessions }) hsessions
  · have hdone : ¬ hub.sweepNext.time < hub.sweepNext.lastSweep (hub.time + duration) :=
      not_lt.2 hlast.symm.le
    rw [advance_of_not_due fun h => hdone (hnow ▸ h.2), hnow, ← hlast]
    rfl

end Hub

/-! ### Runs -/

/-- Whether a badge accords with what was seen: messages are answered at once at all, its id was
last used when it says so, and no search for idle sessions since then could have ended its
session. -/
structure Badge.Accords (config : Config) (history : List Entry) (badge : Badge) : Prop where
  served : config.transport.servesHttp = true
  used : LastUse config badge.id badge.lastSeen history
  swept : ∀ entry ∈ history, entry.happening = .sweep →
    entry.time ≤ badge.lastSeen ∨ entry.time < badge.lastSeen + config.sessionTtl

/-- Whether the registered sessions that are answered at once accord with what was seen. -/
structure Run.Accords (config : Config) (run : Run) : Prop where
  config_eq : run.hub.config = config
  times : ∀ entry ∈ run.history, entry.time ≤ run.hub.time
  accords : ∀ badge ∈ run.hub.sessions.badges, badge.registered = true → badge.kind = .http →
    badge.Accords config run.history

namespace Run

variable {config : Config} {given : List String} {run : Run}

/-- A session that outlives a search for idle sessions has not been idle too long. -/
lemma lt_of_mem_sweep {hub : Hub} {now : Duration} {badge : Badge}
    (hbadge : badge ∈ (hub.sweep now).sessions.badges) (hreg : badge.registered = true)
    (hkind : badge.kind = .http) : now < badge.lastSeen + hub.config.sessionTtl := by
  rw [Hub.sweep, Sessions.badges_evictIdle] at hbadge
  obtain ⟨before, -, rfl⟩ := List.mem_map.1 hbadge
  have hkind' : before.kind = .http := by rwa [((Badge.isTame_expire _ _ _) before).2.1] at hkind
  have hidle := ((Badge.registered_expire hkind').1 hreg).2
  rw [Badge.lastSeen_expire]
  exact lt_add_of_tsub_lt_left hidle

/-- Unless time passes, what happens is attended to. -/
lemma attends_step (h : run.Accords config) (hproper : run.hub.sessions.Proper given)
    {happening : Happening} (hwait : ∀ duration, happening ≠ .wait duration) :
    ∃ entry, run.step happening = ⟨(run.step happening).hub, entry :: run.history⟩ ∧
      entry.time = run.hub.time ∧ entry.happening = happening ∧
      run.hub.Attends entry (run.step happening).hub := by
  rw [step_eq]
  refine ⟨_, rfl, rfl, rfl, ?_⟩
  have hother {entry : Entry} {hub' : Hub} (hnot : ∀ arrival, entry.happening ≠ .request arrival)
      (hretains : run.hub.Retains hub') : run.hub.Attends entry hub' :=
    hretains.attends fun badge _ _ _ => Tracks.not_uses_of_not_request hnot badge.id
  cases happening with
  | request arrival =>
    exact Hub.attends_request hproper (fun badge hmem hreg hkind =>
      h.config_eq ▸ (h.accords badge hmem hreg hkind).served) rfl rfl
  | look number => exact hother nofun (Hub.quiet_look run.hub number).retains
  | close number => exact hother nofun (Hub.retains_closeStream run.hub number)
  | abandon ticket => exact hother nofun (Hub.quiet_abandon run.hub ticket).retains
  | wait duration => exact absurd rfl (hwait duration)
  | sweep => exact hother nofun ⟨rfl, rfl, Sessions.retains_evictIdle _ _ _ _⟩
  | clear => exact hother nofun ⟨rfl, rfl, Sessions.retains_clear _⟩
  | setClock clock => exact hother nofun ⟨rfl, rfl, (Hub.Retains.refl _).sessions⟩

/-- What is attended to keeps the badges in accord with what was seen. -/
lemma Accords.attends (h : run.Accords config) {entry : Entry} {hub' : Hub}
    (htime : entry.time = run.hub.time) (hattends : run.hub.Attends entry hub')
    (hsweep : entry.happening = .sweep → ∀ badge ∈ hub'.sessions.badges, badge.registered = true →
      badge.kind = .http → run.hub.time < badge.lastSeen + config.sessionTtl) :
    Run.Accords config ⟨hub', entry :: run.history⟩ := by
  have htimes : ∀ earlier ∈ entry :: run.history, earlier.time ≤ run.hub.time :=
    List.forall_mem_cons.2 ⟨htime.le, h.times⟩
  refine ⟨hattends.config.trans h.config_eq,
    fun earlier hmem => (htimes earlier hmem).trans hattends.time.symm.le,
    fun badge hbadge hreg hkind => ?_⟩
  cases hattends.explains badge hbadge hreg hkind with
  | used huses hseen hserved =>
    rw [h.config_eq] at huses hserved
    have hused : LastUse config badge.id badge.lastSeen (entry :: run.history) := by
      rw [hseen, ← htime]
      exact LastUse.cons_of_uses huses (htime.symm ▸ h.times)
    exact ⟨hserved, hused, fun earlier hmem _ => .inl ((htimes earlier hmem).trans hseen.symm.le)⟩
  | kept hnot hmem =>
    rw [h.config_eq] at hnot
    have haccords := h.accords badge hmem hreg hkind
    refine ⟨haccords.served, haccords.used.cons_of_not_uses hnot,
      List.forall_mem_cons.2 ⟨fun hsweeps => .inr ?_, haccords.swept⟩⟩
    exact htime ▸ hsweep hsweeps badge hbadge hreg hkind

lemma Accords.later {hub : Hub} {history : List Entry} (h : Run.Accords config ⟨hub, history⟩)
    {time : Duration} (htime : hub.time ≤ time) :
    Run.Accords config ⟨{ hub with time }, history⟩ :=
  ⟨h.config_eq, fun entry hmem => (h.times entry hmem).trans htime, h.accords⟩

lemma accords_step (h : run.Accords config) (hproper : run.hub.sessions.Proper given)
    (happening : Happening) : (run.step happening).Accords config := by
  by_cases hwait : ∃ duration, happening = .wait duration
  · obtain ⟨duration, rfl⟩ := hwait
    have hattends : run.hub.Attends ⟨run.hub.time, .wait duration, none, none⟩ run.hub :=
      (Hub.Retains.refl run.hub).attends fun badge _ _ _ =>
        Tracks.not_uses_of_not_request (fun _ hrequest => by cases hrequest) badge.id
    exact (h.attends rfl hattends nofun).later (Nat.le_add_right _ _)
  · obtain ⟨entry, hstep, htime, hhappening, hattends⟩ :=
      attends_step h hproper fun duration hduration => hwait ⟨duration, hduration⟩
    rw [hstep]
    refine h.attends htime hattends fun hsweep badge hbadge hreg hkind => ?_
    obtain rfl : happening = .sweep := hhappening.symm.trans hsweep
    rw [← h.config_eq]
    exact lt_of_mem_sweep hbadge hreg hkind

lemma accords_after (config : Config) (clock : Instant) (zones : ZoneTable)
    (happenings : List Happening) :
    ((start config clock zones).after happenings).Accords config := by
  induction happenings using List.reverseRecOn with
  | nil => exact ⟨rfl, List.forall_mem_nil _, List.forall_mem_nil _⟩
  | append_singleton happenings happening ih =>
    rw [after_concat]
    exact accords_step ih (proper_after config clock zones happenings) happening

lemma Accords.lastSeen_le (h : run.Accords config) {badge : Badge}
    (haccords : badge.Accords config run.history) : badge.lastSeen ≤ run.hub.time := by
  obtain ⟨use, hmem, -, htime⟩ := haccords.used.used
  exact htime.symm.le.trans (h.times use hmem)

/-! ### Searches on time -/

/-- Idle sessions were searched for at some time. -/
def SweptAt (run : Run) (time : Duration) : Prop :=
  ∃ entry ∈ run.history, entry.happening = .sweep ∧ entry.time = time

/-- Idle sessions were searched for at the start and again each time that the interval had passed,
before now. Where no message is answered at once there is nothing to search for. -/
def IsOnTime (run : Run) : Prop :=
  run.hub.config.transport.servesHttp = true →
    ∀ count, count * sweepInterval run.hub.config.sessionTtl < run.hub.time →
      run.SweptAt (count * sweepInterval run.hub.config.sessionTtl)

/-- Of the searches that are on time, all up to and including now have been made. -/
def IsCaughtUp (run : Run) : Prop :=
  run.hub.config.transport.servesHttp = true →
    ∀ count, count * sweepInterval run.hub.config.sessionTtl ≤ run.hub.time →
      run.SweptAt (count * sweepInterval run.hub.config.sessionTtl)

lemma SweptAt.after {time : Duration} (h : run.SweptAt time) (happenings : List Happening) :
    (run.after happenings).SweptAt time := by
  obtain ⟨entry, hmem, hentry⟩ := h
  obtain ⟨recent, hhistory⟩ := run.exists_history_eq happenings
  exact ⟨entry, hhistory ▸ List.mem_append_right _ hmem, hentry⟩

/-- Time passes until the next search is made. -/
def sweepNext (run : Run) : Run :=
  run.after [.wait (run.hub.nextSweep - run.hub.time), .sweep]

lemma hub_sweepNext (run : Run) : run.sweepNext.hub = run.hub.sweepNext := by
  simp only [sweepNext, after, List.foldl_cons, List.foldl_nil, step, Hub.undergo, Hub.sweepNext,
    Hub.sweep, Nat.add_sub_cancel' run.hub.lt_nextSweep.le]

lemma sweptAt_sweepNext (run : Run) : run.sweepNext.SweptAt run.hub.nextSweep :=
  ⟨_, List.mem_cons_self, rfl, Nat.add_sub_cancel' run.hub.lt_nextSweep.le⟩

lemma IsCaughtUp.sweepNext (h : run.IsCaughtUp) : run.sweepNext.IsCaughtUp := by
  have hconfig : run.sweepNext.hub.config = run.hub.config := rfl
  have htime : run.sweepNext.hub.time = run.hub.nextSweep := congrArg Hub.time run.hub_sweepNext
  intro hserved count hle
  rw [hconfig] at hserved hle ⊢
  rw [htime] at hle
  obtain hearlier | hnow := lt_or_eq_of_le hle
  · have hcount : count ≤ run.hub.time / sweepInterval run.hub.config.sessionTtl :=
      Nat.lt_succ_iff.1 (Nat.lt_of_mul_lt_mul_right hearlier)
    have hle' := (Nat.mul_le_mul_right _ hcount).trans (Nat.div_mul_le_self _ _)
    exact (h hserved count hle').after _
  · exact hnow ▸ run.sweptAt_sweepNext

/-- When time passes with the last search that falls into it, it is as if all searches that fall
into it were made on time. -/
lemma IsCaughtUp.exists_advance (h : run.IsCaughtUp) (duration : Duration) :
    ∃ later, freshIds later = [] ∧ (run.after later).hub = run.hub.advance duration ∧
      (run.after later).IsCaughtUp := by
  induction duration using Nat.strong_induction_on generalizing run with
  | _ duration ih =>
    by_cases hdue : run.hub.config.transport.servesHttp = true ∧
        run.hub.time < run.hub.lastSweep (run.hub.time + duration)
    · obtain ⟨hserved, hlt⟩ := hdue
      have hless : run.hub.time + duration - run.hub.nextSweep < duration :=
        Nat.sub_lt_left_of_lt_add ((Hub.nextSweep_le hlt).trans (Nat.div_mul_le_self _ _))
          (Nat.add_lt_add_right run.hub.lt_nextSweep duration)
      obtain ⟨later, hfresh, hhub, hcaught⟩ := ih _ hless h.sweepNext
      rw [hub_sweepNext, Hub.advance_sweepNext hserved hlt, Run.sweepNext, ← after_append] at hhub
      rw [Run.sweepNext, ← after_append] at hcaught
      refine ⟨_, ?_, hhub, hcaught⟩
      rw [freshIds_append, hfresh]
      rfl
    · refine ⟨[.wait duration], rfl, (Hub.advance_of_not_due hdue).symm, ?_⟩
      intro hserved count hle
      have hcount := (Nat.le_div_iff_mul_le (sweepInterval_pos _)).2 hle
      have hnone := not_lt.1 fun hlt => hdue ⟨hserved, hlt⟩
      exact (h hserved count ((Nat.mul_le_mul_right _ hcount).trans hnone)).after _

lemma exists_last_before {now interval : Nat} (hnow : 0 < now) (hinterval : 0 < interval) :
    ∃ count, count * interval < now ∧ now ≤ count * interval + interval := by
  have hle : (now - 1) / interval * interval ≤ now - 1 := Nat.div_mul_le_self _ _
  have hlt : now - 1 < (now - 1) / interval * interval + interval := Nat.lt_div_mul_add hinterval
  exact ⟨(now - 1) / interval, by omega, by omega⟩

/-- What a search made of a session bounds how long it has been idle. -/
lemma lt_of_swept {now last seen ttl interval : Nat} (hswept : last ≤ seen ∨ last < seen + ttl)
    (hlast : now < last + interval ∨ 0 < ttl ∧ now ≤ last + interval) :
    now < seen + ttl + interval := by
  omega

/-- No registered session that is answered at once has been idle for long, as the last search would
have ended it. -/
lemma lt_of_accords (h : run.Accords config) {badge : Badge}
    (haccords : badge.Accords config run.history)
    (hontime : run.IsCaughtUp ∨ 0 < config.sessionTtl ∧ run.IsOnTime) :
    run.hub.time < badge.lastSeen + config.sessionTtl + sweepInterval config.sessionTtl := by
  obtain rfl := h.config_eq
  have hpos : 0 < sweepInterval run.hub.config.sessionTtl := sweepInterval_pos _
  rcases hontime with hcaught | ⟨httl, hontime⟩
  · obtain ⟨entry, hmem, hsweep, hentry⟩ :=
      hcaught haccords.served _ (Nat.div_mul_le_self run.hub.time _)
    refine lt_of_swept (haccords.swept entry hmem hsweep) (.inl ?_)
    rw [hentry]
    exact Nat.lt_div_mul_add hpos
  · obtain hstart | hlater := Nat.eq_zero_or_pos run.hub.time
    · rw [hstart]
      exact Nat.add_pos_right _ hpos
    · -- The search that is due now may not have been made yet, but the one before it has.
      obtain ⟨count, hlt, hle⟩ := exists_last_before hlater hpos
      obtain ⟨entry, hmem, hsweep, hentry⟩ := hontime haccords.served count hlt
      exact lt_of_swept (haccords.swept entry hmem hsweep) (.inr ⟨httl, hentry ▸ hle⟩)

/-- Idle sessions end neither too early nor too late. Between two searches for them lie a second at
least and a minute at most. Whatever has happened, a search leaves each session as it is, or takes
it out of the registry, if its messages are answered at once and it was neither opened nor used for
its time to live. What is told of a search is how many sessions it takes out. If the searches are
made on time, no registered session that is answered at once has been idle for its time to live and
the time between two searches together. They are made on time when time passes. -/
theorem idle_expiry (config : Config) (clock : Instant) (zones : ZoneTable)
    (happenings : List Happening) :
    let run := (start config clock zones).after happenings
    let ttl := config.sessionTtl
    (nanosPerSecond ≤ sweepInterval ttl ∧ sweepInterval ttl ≤ 60 * nanosPerSecond) ∧
    (∀ (number : SessionNumber) (session : Session), run.hub.sessions[number]? = some session →
      (run.step .sweep).hub.sessions[number]? = some session ∨
      (run.step .sweep).hub.sessions[number]? = some (Sessions.forget session) ∧
        session.kind = .http ∧
        ∀ use ∈ run.history, use.Uses config session.id → use.time + ttl ≤ run.hub.time) ∧
    (∀ (sessions : Sessions) (kind : SessionKind) (limit now : Duration),
      Sessions.size (sessions.evictIdle kind limit now) + sessions.countIdle kind limit now =
          sessions.size ∧
        sessions.countIdle kind limit now =
          sessions.countP (Sessions.isStale kind limit now)) ∧
    (run.IsCaughtUp ∨ 0 < ttl ∧ run.IsOnTime →
      ∀ session ∈ run.hub.sessions, session.registered = true → session.kind = .http →
        LastUse config session.id session.lastSeen run.history ∧
          session.lastSeen ≤ run.hub.time ∧
          session.idle run.hub.time < ttl + sweepInterval ttl) ∧
    (run.IsCaughtUp → ∀ duration, ∃ later, freshIds later = [] ∧
      (run.after later).hub = run.hub.advance duration ∧ (run.after later).IsCaughtUp) := by
  intro run ttl
  have haccords : run.Accords config := accords_after config clock zones happenings
  refine ⟨⟨one_second_le_sweepInterval ttl, sweepInterval_le_one_minute ttl⟩,
    fun number session hget => ?_, Sessions.size_evictIdle,
    fun hontime session hmem hreg hkind => ?_, IsCaughtUp.exists_advance⟩
  · have hswept := Sessions.getElem?_evictIdle run.hub.sessions .http run.hub.config.sessionTtl
      run.hub.time hget
    by_cases hstale : Sessions.isStale .http run.hub.config.sessionTtl run.hub.time session = true
    · rw [if_pos hstale] at hswept
      obtain ⟨hreg, hkind, hidle⟩ := Sessions.isStale_iff.1 hstale
      refine .inr ⟨hswept, hkind, fun use hmem huses => ?_⟩
      have hbadge := haccords.accords session.badge
        (List.mem_map_of_mem (List.mem_of_getElem? hget)) hreg hkind
      have hlast : use.time ≤ session.lastSeen := hbadge.used.last use hmem huses
      rw [haccords.config_eq] at hidle
      have hover : ttl + session.lastSeen ≤ run.hub.time :=
        Nat.add_le_of_le_sub (haccords.lastSeen_le hbadge) hidle
      rw [Nat.add_comm]
      exact (Nat.add_le_add_left hlast ttl).trans hover
    · rw [if_neg hstale] at hswept
      exact .inl hswept
  · have hbadge := haccords.accords session.badge (List.mem_map_of_mem hmem) hreg hkind
    have hseen : session.lastSeen ≤ run.hub.time := haccords.lastSeen_le hbadge
    have hlt := lt_of_accords haccords hbadge hontime
    rw [Nat.add_assoc] at hlt
    exact ⟨hbadge.used, hseen, Nat.sub_lt_left_of_lt_add hseen hlt⟩

/-! ### A visit -/

/-- If idle sessions were searched for at the start, and not enough time has passed for another
search, then the searches are on time. -/
lemma isOnTime_of_lt (hswept : run.SweptAt 0)
    (hlt : run.hub.time < sweepInterval run.hub.config.sessionTtl) : run.IsOnTime := by
  intro _ count hcount
  cases count with
  | zero => rwa [Nat.zero_mul]
  | succ count =>
    have hle := Nat.le_mul_of_pos_left (sweepInterval run.hub.config.sessionTtl) count.succ_pos
    exact absurd (hle.trans_lt hcount) hlt.not_gt

section

variable (config : Config) (clock : Instant) (arrival : Arrival) (duration : Duration)

/-- A server that searches for idle sessions, is sent a request and is then left alone for some
time. -/
def visited : Run := (start config clock).after [.sweep, .request arrival, .wait duration]

lemma sessions_visited : (visited config clock arrival duration).hub.sessions =
    ((start config clock).after [.request arrival]).hub.sessions := rfl

lemma time_visited : (visited config clock arrival duration).hub.time = duration := by
  have hwait (duration : Duration) : Happening.request arrival ≠ .wait duration := nofun
  obtain ⟨_, -, -, -, hattends⟩ := attends_step (accords_after config clock Zone.find? [.sweep])
    (proper_after config clock Zone.find? [.sweep]) hwait
  exact (congrArg (· + duration) hattends.time).trans (Nat.zero_add duration)

lemma isOnTime_visited (hlt : duration < sweepInterval config.sessionTtl) :
    (visited config clock arrival duration).IsOnTime := by
  have hconfig : (visited config clock arrival duration).hub.config = config :=
    (accords_after config clock Zone.find? _).config_eq
  have hswept : ((start config clock).step .sweep).SweptAt 0 := ⟨_, List.mem_cons_self, rfl, rfl⟩
  refine isOnTime_of_lt (hswept.after [.request arrival, .wait duration]) ?_
  rwa [time_visited, hconfig]

end

/-- A client greets the server, which has just searched for idle sessions, and half a minute passes
without a message. -/
theorem idle_expiry_visit :
    (visited (configWith .http) epoch visitPoster.greeting (30 * nanosPerSecond)).IsOnTime ∧
    ∃ session ∈ (visited (configWith .http) epoch visitPoster.greeting
        (30 * nanosPerSecond)).hub.sessions,
      session.registered = true ∧ session.kind = .http ∧
      session.idle (30 * nanosPerSecond) < 1860 * nanosPerSecond := by
  have hinterval : sweepInterval (configWith .http).sessionTtl = 60 * nanosPerSecond := by decide
  have hontime := isOnTime_visited (configWith .http) epoch visitPoster.greeting
    (30 * nanosPerSecond) (by rw [hinterval]; decide)
  obtain ⟨-, number, session, hget, hreg, -, hkind⟩ :=
    exists_registered_of_greeting epoch rfl visitPoster.greets visitPoster.isGreeting
      visitPoster.pauses_lt
  have hmem := List.mem_of_getElem? hget
  rw [← sessions_visited _ _ _ (30 * nanosPerSecond)] at hmem
  obtain ⟨-, -, -, hidle, -⟩ := idle_expiry (configWith .http) epoch Zone.find?
    [.sweep, .request visitPoster.greeting, .wait (30 * nanosPerSecond)]
  have httl : 0 < (configWith .http).sessionTtl := by decide
  have hlt : session.idle (visited (configWith .http) epoch visitPoster.greeting
      (30 * nanosPerSecond)).hub.time < _ :=
    (hidle (.inr ⟨httl, hontime⟩) session hmem hreg hkind).2.2
  rw [time_visited, hinterval] at hlt
  have hsum : (configWith .http).sessionTtl + 60 * nanosPerSecond = 1860 * nanosPerSecond := by
    decide
  exact ⟨hontime, session, hmem, hreg, hkind, hlt.trans_eq hsum⟩

end Run

end WorldClock
