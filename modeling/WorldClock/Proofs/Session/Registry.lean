import Mathlib.Tactic
import WorldClock.Session.Registry
/-!
# What the registry knows

The registry sees of a session only its id, its kind, whether it is registered, and when its client
was last active: its badge. What an operation does to the registry is told as what it does to the
badges. As long as no two sessions share an id, each operation changes all badges in the same way,
or adds one.
-/

namespace WorldClock

/-! ### Badges -/

/-- What the registry sees of a session. -/
structure Badge where
  id : String
  kind : SessionKind
  registered : Bool
  lastSeen : Duration
deriving DecidableEq

namespace Badge

/-- Whether a session with the badge is found by an id on a surface. -/
def answersTo (id : String) (kind : SessionKind) (badge : Badge) : Bool :=
  badge.registered && badge.id == id && badge.kind == kind

@[simp] lemma answersTo_iff {id : String} {kind : SessionKind} {badge : Badge} :
    badge.answersTo id kind = true ↔
      badge.registered = true ∧ badge.id = id ∧ badge.kind = kind := by
  simp [answersTo, and_assoc]

/-- The badge of a session that has been taken out. -/
def forget (badge : Badge) : Badge :=
  { badge with registered := false }

/-- The badge of a session whose client has been active. -/
def touch (now : Duration) (badge : Badge) : Badge :=
  { badge with lastSeen := now }

/-- Changes a badge if its session is found by an id on a surface. -/
def changeIf (id : String) (kind : SessionKind) (change : Badge → Badge) (badge : Badge) : Badge :=
  if badge.answersTo id kind then change badge else badge

lemma changeIf_of_answersTo {id : String} {kind : SessionKind} (change : Badge → Badge)
    {badge : Badge} (h : badge.answersTo id kind = true) :
    badge.changeIf id kind change = change badge :=
  if_pos h

lemma changeIf_of_not_answersTo {id : String} {kind : SessionKind} (change : Badge → Badge)
    {badge : Badge} (h : ¬ badge.answersTo id kind = true) :
    badge.changeIf id kind change = badge :=
  if_neg h

/-- Whether a change of badges leaves alone ids and kinds, and registers nothing. -/
def IsTame (change : Badge → Badge) : Prop :=
  ∀ badge, (change badge).id = badge.id ∧ (change badge).kind = badge.kind ∧
    ((change badge).registered = true → badge.registered = true)

lemma isTame_forget : IsTame forget := by
  intro badge
  simp [forget]

lemma isTame_touch (now : Duration) : IsTame (touch now) := by
  intro badge
  simp [touch]

@[simp] lemma registered_changeIf_touch (id : String) (kind : SessionKind) (now : Duration)
    (badge : Badge) : (badge.changeIf id kind (touch now)).registered = badge.registered := by
  unfold changeIf
  split_ifs <;> rfl

lemma registered_changeIf_forget {id : String} {kind : SessionKind} {badge : Badge} :
    (badge.changeIf id kind forget).registered = true ↔
      badge.registered = true ∧ ¬ badge.answersTo id kind = true := by
  unfold changeIf
  split_ifs with hanswers
  · simp [forget, hanswers]
  · simp [hanswers]

lemma IsTame.changeIf {change : Badge → Badge} (h : IsTame change) (id : String)
    (kind : SessionKind) : IsTame (Badge.changeIf id kind change) := by
  intro badge
  unfold Badge.changeIf
  split_ifs
  · exact h badge
  · exact ⟨rfl, rfl, fun hreg => hreg⟩

/-- Takes out a session of a kind that has been idle for some time or longer. -/
def expire (kind : SessionKind) (limit now : Duration) (badge : Badge) : Badge :=
  if badge.registered && badge.kind == kind && limit ≤ now - badge.lastSeen then badge.forget
  else badge

lemma isTame_expire (kind : SessionKind) (limit now : Duration) :
    IsTame (expire kind limit now) := by
  intro badge
  unfold expire
  split_ifs
  · exact isTame_forget badge
  · exact ⟨rfl, rfl, fun hreg => hreg⟩

/-- Sessions of other kinds do not expire. -/
lemma expire_of_kind_ne {kind : SessionKind} {badge : Badge} (h : badge.kind ≠ kind)
    (limit now : Duration) : badge.expire kind limit now = badge := by
  simp [expire, h]

lemma registered_expire {kind : SessionKind} {limit now : Duration} {badge : Badge}
    (hkind : badge.kind = kind) : (badge.expire kind limit now).registered = true ↔
      badge.registered = true ∧ now - badge.lastSeen < limit := by
  unfold expire
  split_ifs with hstale
  · simp_all [forget]
  · simp_all

lemma lastSeen_expire (kind : SessionKind) (limit now : Duration) (badge : Badge) :
    (badge.expire kind limit now).lastSeen = badge.lastSeen := by
  unfold expire
  split_ifs <;> rfl

end Badge

/-- The badge of a session. -/
def Session.badge (session : Session) : Badge :=
  ⟨session.id, session.kind, session.registered, session.lastSeen⟩

namespace Sessions

/-- The badges of all sessions. -/
def badges (sessions : Sessions) : List Badge :=
  sessions.map Session.badge

/-- The ids of all sessions. -/
def ids (sessions : Sessions) : List String :=
  sessions.map Session.id

/-- Whether an id leads to a session on a surface. -/
def Resolves (sessions : Sessions) (id : String) (kind : SessionKind) : Prop :=
  ∃ badge ∈ sessions.badges, badge.answersTo id kind = true

lemma ids_eq_map_badges (sessions : Sessions) : sessions.ids = sessions.badges.map Badge.id := by
  simp [ids, badges, Session.badge]

/-! ### Finding -/

lemma find_eq_none_iff {sessions : Sessions} {id : String} {kind : SessionKind} :
    sessions.find? id kind = none ↔ ¬ sessions.Resolves id kind := by
  have hbadge : ∀ session : Session, session.badge.answersTo id kind = answersTo id kind session :=
    fun _ => rfl
  simp only [find?, Resolves, badges, List.findIdx?_eq_none_iff, List.mem_map,
    exists_exists_and_eq_and, hbadge, not_exists, not_and, Bool.not_eq_true]

lemma exists_of_find {sessions : Sessions} {id : String} {kind : SessionKind}
    {number : SessionNumber} (h : sessions.find? id kind = some number) :
    ∃ session, sessions[number]? = some session ∧ session.badge.answersTo id kind = true := by
  obtain ⟨hlt, hanswers, -⟩ := List.findIdx?_eq_some_iff_getElem.1 h
  exact ⟨sessions[number], List.getElem?_eq_getElem hlt, hanswers⟩

lemma resolves_of_find {sessions : Sessions} {id : String} {kind : SessionKind}
    {number : SessionNumber} (h : sessions.find? id kind = some number) :
    sessions.Resolves id kind := by
  by_contra hnot
  rw [find_eq_none_iff.2 hnot] at h
  cases h

/-- The badges alone decide on what an id leads to. -/
lemma find_eq_findIdx_badges (sessions : Sessions) (id : String) (kind : SessionKind) :
    sessions.find? id kind = sessions.badges.findIdx? (Badge.answersTo id kind) := by
  rw [badges, List.findIdx?_map]
  rfl

/-- An id that is not yet given leads to the session to which it is given. -/
lemma find_append {sessions : Sessions} {session : Session} {id : String} {kind : SessionKind}
    (hfresh : id ∉ sessions.ids) (hanswers : session.badge.answersTo id kind = true) :
    find? (sessions ++ [session]) id kind = some sessions.length := by
  have hnone : find? sessions id kind = none := by
    rw [find_eq_none_iff]
    rintro ⟨badge, hbadge, hid⟩
    rw [ids_eq_map_badges] at hfresh
    exact hfresh ((Badge.answersTo_iff.1 hid).2.1 ▸ List.mem_map_of_mem hbadge)
  have hfound : answersTo id kind session = true := hanswers
  rw [find?] at hnone ⊢
  simp [List.findIdx?_append, hnone, List.findIdx?_cons, hfound]

/-- An id leads on to the session to which it led, as long as that one keeps it. -/
lemma find_set {sessions : Sessions} {id : String} {kind : SessionKind} {number : SessionNumber}
    {session : Session} (hfind : sessions.find? id kind = some number)
    (hanswers : session.badge.answersTo id kind = true) :
    find? (sessions.set number session) id kind = some number := by
  rw [find?, List.findIdx?_eq_some_iff_getElem] at hfind ⊢
  obtain ⟨hlt, -, hearlier⟩ := hfind
  refine ⟨by simpa using hlt, ?_, fun j hj => ?_⟩
  · rw [List.getElem_set_self]
    exact hanswers
  · rw [List.getElem_set_of_ne (Nat.ne_of_gt hj)]
    exact hearlier j hj

/-- When sessions are taken out, an id leads on to a session that is not. -/
lemma find_badges_map {sessions sessions' : Sessions} {change : Badge → Badge}
    (hchange : Badge.IsTame change) (hbadges : sessions'.badges = sessions.badges.map change)
    {id : String} {kind : SessionKind} {number : SessionNumber} {session : Session}
    (hfind : sessions.find? id kind = some number) (hget : sessions[number]? = some session)
    (hreg : (change session.badge).registered = true) :
    sessions'.find? id kind = some number := by
  have hanswers (badge : Badge) (h : (change badge).answersTo id kind = true) :
      badge.answersTo id kind = true := by
    obtain ⟨hid, hkind, hreg⟩ := hchange badge
    rw [Badge.answersTo_iff] at h ⊢
    exact ⟨hreg h.1, hid.symm.trans h.2.1, hkind.symm.trans h.2.2⟩
  rw [find_eq_findIdx_badges] at hfind ⊢
  rw [hbadges, List.findIdx?_map]
  rw [List.findIdx?_eq_some_iff_getElem] at hfind ⊢
  obtain ⟨hlt, hfound, hearlier⟩ := hfind
  have hsession : sessions.badges[number] = session.badge := by
    simp [badges, (List.getElem?_eq_some_iff.1 hget).2]
  refine ⟨hlt, ?_, fun j hj => ?_⟩
  · rw [hsession] at hfound
    obtain ⟨hid, hkind, -⟩ := hchange session.badge
    obtain ⟨-, hid', hkind'⟩ := Badge.answersTo_iff.1 hfound
    simpa [hsession] using ⟨hreg, hid.trans hid', hkind.trans hkind'⟩
  · exact fun h => hearlier j hj (hanswers _ h)

/-! ### Changes of one session -/

lemma modify_eq_set {sessions : Sessions} {number : SessionNumber} {session : Session}
    (h : sessions[number]? = some session) (f : Session → Session) :
    sessions.modify number f = sessions.set number (f session) := by
  refine List.ext_getElem? fun k => ?_
  rw [List.getElem?_modify, List.getElem?_set]
  by_cases hk : number = k
  · subst hk
    obtain ⟨hlt, rfl⟩ := List.getElem?_eq_some_iff.1 h
    simp [hlt]
  · simp [hk]

/-- A change that the registry does not see. -/
lemma badges_set_same {sessions : Sessions} {number : SessionNumber} {session session' : Session}
    (h : sessions[number]? = some session) (hbadge : session'.badge = session.badge) :
    badges (sessions.set number session') = sessions.badges := by
  rw [badges, badges, List.map_set, hbadge]
  refine List.ext_getElem? fun k => ?_
  rw [List.getElem?_set]
  split_ifs with hk hlt
  · rw [← hk, List.getElem?_map, h]
    rfl
  · rw [List.getElem?_eq_none (by rw [← hk]; exact not_lt.1 hlt)]
  · rfl

/-- Of sessions with ids of their own, one is changed by a change of all that an id leads to. -/
lemma badges_set {sessions : Sessions} (hids : sessions.ids.Nodup) {number : SessionNumber}
    {session session' : Session} (h : sessions[number]? = some session) {id : String}
    {kind : SessionKind} (hanswers : session.badge.answersTo id kind = true)
    {change : Badge → Badge} (hbadge : session'.badge = change session.badge) :
    badges (sessions.set number session') =
      sessions.badges.map (Badge.changeIf id kind change) := by
  have hlt : number < sessions.length := (List.getElem?_eq_some_iff.1 h).1
  rw [badges, badges, List.map_set, hbadge]
  refine List.ext_getElem? fun k => ?_
  simp only [List.getElem?_set, List.length_map, List.getElem?_map, Option.map_map]
  by_cases hk : number = k
  · subst hk
    rw [if_pos rfl, if_pos hlt, h, Option.map_some, Function.comp_apply, Badge.changeIf,
      if_pos hanswers]
  · -- The id leads to no other session, as that one would share it.
    rw [if_neg hk]
    cases hother : sessions[k]? with
    | none => rfl
    | some other =>
      have hne : other.badge.answersTo id kind = false := by
        refine Bool.eq_false_iff.2 fun hanswers' => hk ?_
        have hid : session.id = id := (Badge.answersTo_iff.1 hanswers).2.1
        have hid' : other.id = id := (Badge.answersTo_iff.1 hanswers').2.1
        have heq : sessions.ids[number]? = sessions.ids[k]? := by
          simp only [ids, List.getElem?_map, h, hother, Option.map_some, hid, hid']
        exact (List.getElem?_inj (by simpa [ids] using hlt) hids).1 heq
      simp [Badge.changeIf, hne]

/-! ### The operations -/

/-- A session comes to those that are there, of which those with its id give way. -/
lemma register_concat (sessions : Sessions) (session : Session) :
    register (sessions ++ [session]) sessions.length =
      (sessions.map fun other => if other.id == session.id then forget other else other) ++
        [{ session with registered := true }] := by
  have hget : (sessions ++ [session])[sessions.length]? = some session := by simp
  have hself : (if session.id == session.id then forget session else session) = forget session :=
    if_pos (beq_self_eq_true _)
  simp only [register, hget, List.map_append, List.map_cons, List.map_nil, hself]
  generalize hothers : (sessions.map fun other =>
    if other.id == session.id then forget other else other) = others
  have hlength : sessions.length = others.length := by
    rw [← hothers, List.length_map]
  have hforgotten : (others ++ [forget session])[sessions.length]? = some (forget session) := by
    simp [hlength]
  rw [modify_eq_set hforgotten, hlength]
  simp [forget]

/-- A session under a new id comes to those that are there, none of which gives way. -/
lemma register_append {sessions : Sessions} {session : Session} (h : session.id ∉ sessions.ids) :
    register (sessions ++ [session]) sessions.length =
      sessions ++ [{ session with registered := true }] := by
  have hsame : (sessions.map fun other => if other.id == session.id then forget other else other) =
      sessions := by
    refine (List.map_congr_left fun other hother => ?_).trans (List.map_id _)
    have hne : other.id ≠ session.id := fun heq => h (heq ▸ List.mem_map_of_mem hother)
    simp [hne]
  rw [register_concat, hsame]

lemma badges_remove {sessions : Sessions} (hids : sessions.ids.Nodup) (id : String)
    (kind : SessionKind) :
    badges (sessions.remove id kind) =
      sessions.badges.map (Badge.changeIf id kind Badge.forget) := by
  unfold remove
  cases hfind : sessions.find? id kind with
  | none =>
    have hnone : ∀ badge ∈ sessions.badges, badge.changeIf id kind Badge.forget = badge := by
      intro badge hbadge
      rw [Badge.changeIf, if_neg fun h => find_eq_none_iff.1 hfind ⟨badge, hbadge, h⟩]
    exact ((List.map_congr_left hnone).trans (List.map_id _)).symm
  | some number =>
    obtain ⟨session, hget, hanswers⟩ := exists_of_find hfind
    dsimp only
    rw [modify_eq_set hget]
    exact badges_set hids hget hanswers rfl

lemma evictIdle_eq_map (sessions : Sessions) (kind : SessionKind) (limit now : Duration) :
    sessions.evictIdle kind limit now = sessions.map fun session =>
      if isStale kind limit now session then forget session else session := rfl

lemma badges_evictIdle (sessions : Sessions) (kind : SessionKind) (limit now : Duration) :
    badges (sessions.evictIdle kind limit now) =
      sessions.badges.map (Badge.expire kind limit now) := by
  simp only [badges, evictIdle_eq_map, List.map_map]
  refine List.map_congr_left fun session _ => ?_
  have hstale : isStale kind limit now session = (session.badge.registered &&
      session.badge.kind == kind && limit ≤ now - session.badge.lastSeen) := rfl
  rw [Function.comp_apply, Function.comp_apply, Badge.expire, ← hstale]
  split_ifs <;> rfl

lemma badges_clear (sessions : Sessions) :
    badges sessions.clear = sessions.badges.map Badge.forget := by
  simp only [badges, clear, List.map_map]
  exact List.map_congr_left fun session _ => rfl

/-! ### Sessions of other kinds -/

/-- Whether all sessions of a kind are as they were. -/
def Spares (kind : SessionKind) (sessions sessions' : Sessions) : Prop :=
  ∀ (number : SessionNumber) (session : Session), sessions[number]? = some session →
    session.kind = kind → sessions'[number]? = some session

lemma Spares.refl (kind : SessionKind) (sessions : Sessions) : Spares kind sessions sessions :=
  fun _ _ h _ => h

lemma spares_append (kind : SessionKind) (sessions more : Sessions) :
    Spares kind sessions (sessions ++ more) := by
  intro number session h _
  rw [List.getElem?_append_left (List.getElem?_eq_some_iff.1 h).1, h]

lemma spares_set {kind : SessionKind} {sessions : Sessions} {number : SessionNumber}
    {session : Session} (h : sessions[number]? = some session) (hkind : session.kind ≠ kind)
    (session' : Session) : Spares kind sessions (sessions.set number session') := by
  intro k other hother hothers
  have hne : number ≠ k := by
    rintro rfl
    rw [h, Option.some.injEq] at hother
    exact hkind (hother ▸ hothers)
  rw [List.getElem?_set_ne hne, hother]

lemma spares_remove {kind kind' : SessionKind} (hkind : kind' ≠ kind) (sessions : Sessions)
    (id : String) : Spares kind sessions (sessions.remove id kind') := by
  unfold remove
  cases hfind : sessions.find? id kind' with
  | none => exact .refl kind sessions
  | some number =>
    obtain ⟨session, hget, hanswers⟩ := exists_of_find hfind
    dsimp only
    rw [modify_eq_set hget]
    exact spares_set hget (fun h => hkind ((Badge.answersTo_iff.1 hanswers).2.2.symm.trans h)) _

lemma spares_evictIdle {kind kind' : SessionKind} (hkind : kind' ≠ kind) (sessions : Sessions)
    (limit now : Duration) : Spares kind sessions (sessions.evictIdle kind' limit now) := by
  intro number session h hsession
  have hstale : isStale kind' limit now session = false := by
    simp [isStale, hsession, Ne.symm hkind]
  simp [evictIdle_eq_map, h, hstale]

end Sessions

end WorldClock
