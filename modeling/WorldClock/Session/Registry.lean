import WorldClock.Session.Basic
/-!
# The registry of sessions

All sessions that were ever opened, in the order of their opening, which gives each one its number.
Those that are registered can be found by their id, on the surface on which they were opened and on
no other. An id leads to one session at most.
-/

namespace WorldClock

/-- The sessions that were ever opened. -/
abbrev Sessions := List Session

/-- The number of a session: how many were opened before it. -/
abbrev SessionNumber := Nat

namespace Sessions

/-- Whether a session is found by an id on a surface. -/
def answersTo (id : String) (kind : SessionKind) (session : Session) : Bool :=
  session.registered && session.id == id && session.kind == kind

/-- The session that an id leads to on a surface. -/
def find? (sessions : Sessions) (id : String) (kind : SessionKind) : Option SessionNumber :=
  sessions.findIdx? (answersTo id kind)

/-- Takes a session out of the registry. -/
def forget (session : Session) : Session :=
  { session with registered := false }

/-- Enters a session into the registry. Another session with the same id gives way. -/
def register (sessions : Sessions) (number : SessionNumber) : Sessions :=
  match sessions[number]? with
  | none => sessions
  | some session =>
    (sessions.map fun other => if other.id == session.id then forget other else other).modify number
      fun session => { session with registered := true }

/-- Takes the session that an id leads to on a surface out of the registry. -/
def remove (sessions : Sessions) (id : String) (kind : SessionKind) : Sessions :=
  match sessions.find? id kind with
  | some number => sessions.modify number forget
  | none => sessions

/-- Whether a session of a kind has been idle too long. -/
def isStale (kind : SessionKind) (limit now : Duration) (session : Session) : Bool :=
  session.registered && session.kind == kind && limit ≤ session.idle now

/-- The number of sessions in the registry. -/
def size (sessions : Sessions) : Nat :=
  sessions.countP Session.registered

/-- Takes the sessions of a kind that have been idle for some time or longer out of the registry,
and tells how many sessions are fewer in it then. -/
def searchIdle (sessions : Sessions) (kind : SessionKind) (limit now : Duration) :
    Sessions × Nat :=
  let left := sessions.map fun session =>
    if isStale kind limit now session then forget session else session
  (left, sessions.size - size left)

/-- The sessions after a search for idle ones. -/
def evictIdle (sessions : Sessions) (kind : SessionKind) (limit now : Duration) : Sessions :=
  (sessions.searchIdle kind limit now).1

/-- What is told of a search for idle sessions. -/
def countIdle (sessions : Sessions) (kind : SessionKind) (limit now : Duration) : Nat :=
  (sessions.searchIdle kind limit now).2

/-- Takes all sessions out of the registry. -/
def clear (sessions : Sessions) : Sessions :=
  sessions.map forget

end Sessions

/-! ### Sweeps -/

/-- How long to wait between two searches for idle sessions: a quarter of the time for which they
may be idle, but at least a second and at most a minute. -/
def sweepInterval (ttl : Duration) : Duration :=
  max nanosPerSecond (min (ttl / 4) (60 * nanosPerSecond))

end WorldClock
