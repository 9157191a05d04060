import WorldClock.Proofs.Session.Registry
/-!
# Expiry

A search for idle sessions takes out those of one kind that have been idle for some time or longer,
and it tells how many these are (`Sessions.size_evictIdle`). What an earlier search has taken out a
later one would have taken out too (`Sessions.evictIdle_evictIdle`).
-/

namespace WorldClock

/-! ### The time between two searches -/

lemma one_second_le_sweepInterval (ttl : Duration) : nanosPerSecond ≤ sweepInterval ttl :=
  le_max_left _ _

lemma sweepInterval_le_one_minute (ttl : Duration) : sweepInterval ttl ≤ 60 * nanosPerSecond := by
  have hsecond : nanosPerSecond ≤ 60 * nanosPerSecond := by decide
  exact max_le hsecond (min_le_right _ _)

lemma sweepInterval_pos (ttl : Duration) : 0 < sweepInterval ttl :=
  lt_of_lt_of_le (by decide) (one_second_le_sweepInterval ttl)

namespace Sessions

variable {kind : SessionKind} {limit now : Duration} {session : Session}

lemma isStale_iff : isStale kind limit now session = true ↔
    session.registered = true ∧ session.kind = kind ∧ limit ≤ session.idle now := by
  simp [isStale, and_assoc]

@[simp] lemma isStale_forget : isStale kind limit now (forget session) = false := by
  simp [isStale, forget]

/-- The longer a session is idle, the more it is stale. -/
lemma isStale_mono {now' : Duration} (hle : now ≤ now')
    (h : isStale kind limit now session = true) : isStale kind limit now' session = true := by
  rw [isStale_iff] at h ⊢
  exact ⟨h.1, h.2.1, h.2.2.trans (Nat.sub_le_sub_right hle _)⟩

variable (sessions : Sessions)

/-- Each session is as it was, or it was stale and has been taken out. -/
lemma getElem?_evictIdle (kind : SessionKind) (limit now : Duration) {number : SessionNumber}
    {session : Session} (h : sessions[number]? = some session) :
    (sessions.evictIdle kind limit now)[number]? =
      some (if isStale kind limit now session then forget session else session) := by
  rw [evictIdle_eq_map, List.getElem?_map, h, Option.map_some]

/-- The stale sessions are those that are missing from the registry after a search. -/
lemma size_evictIdle_add_countP (kind : SessionKind) (limit now : Duration) :
    size (sessions.evictIdle kind limit now) + sessions.countP (isStale kind limit now) =
      sessions.size := by
  induction sessions with
  | nil => rfl
  | cons session sessions ih =>
    simp only [size, evictIdle_eq_map, List.map_cons, List.countP_cons] at ih ⊢
    by_cases hstale : isStale kind limit now session = true
    · have hreg : session.registered = true := (isStale_iff.1 hstale).1
      have hforgotten : (forget session).registered = false := rfl
      simp only [hstale, hreg, hforgotten, if_true, Bool.false_eq_true, if_false]
      omega
    · simp only [hstale, if_false, Bool.false_eq_true]
      omega

/-- What is told of a search is how many sessions were stale, and are fewer in the registry. -/
lemma size_evictIdle (kind : SessionKind) (limit now : Duration) :
    size (sessions.evictIdle kind limit now) + sessions.countIdle kind limit now =
        sessions.size ∧
      sessions.countIdle kind limit now = sessions.countP (isStale kind limit now) := by
  have hsize := sessions.size_evictIdle_add_countP kind limit now
  have hcount : sessions.countIdle kind limit now =
      sessions.size - size (sessions.evictIdle kind limit now) := rfl
  omega

/-- After a search an earlier one makes no difference. -/
lemma evictIdle_evictIdle (kind : SessionKind) (limit : Duration) {now now' : Duration}
    (h : now ≤ now') :
    evictIdle (sessions.evictIdle kind limit now) kind limit now' =
      sessions.evictIdle kind limit now' := by
  simp only [evictIdle_eq_map, List.map_map]
  refine List.map_congr_left fun session _ => ?_
  rw [Function.comp_apply]
  by_cases hstale : isStale kind limit now session = true
  · rw [if_pos hstale, isStale_forget, if_neg Bool.false_ne_true,
      if_pos (isStale_mono h hstale)]
  · rw [if_neg hstale]

end Sessions

end WorldClock
