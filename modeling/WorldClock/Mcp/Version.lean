/-!
# Versions

The name and the version of the server, the revisions of the protocol that it speaks, and the choice
of one of them for a session.
-/

namespace WorldClock

/-- The name of the server. -/
def serverName : String := "fast-time-server"

/-- The version of the server. -/
def serverVersion : String := "0.1.0"

/-- The revision offered to a client that asks for one the server does not speak. -/
def latestRevision : String := "2025-06-18"

/-- The revisions that the server speaks, the newest one first. -/
def supportedRevisions : List String := [latestRevision, "2025-03-26", "2024-11-05"]

/-- The revision that a session uses: the requested one if the server speaks it. -/
def negotiate : Option String → String
  | some requested => if supportedRevisions.contains requested then requested else latestRevision
  | none => latestRevision

end WorldClock
