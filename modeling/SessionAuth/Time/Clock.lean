import SessionAuth.Time.Timestamp

/-!
# Clocks

A service reads two clocks: the wall clock, by which tokens and records are dated, and one that
never goes back, by which deadlines are kept.  Both advance together.
-/

set_option autoImplicit false

namespace SessionAuth

/-- The present time on both clocks. -/
structure Clock where
  wall : Timestamp
  /-- Nanoseconds since the start. -/
  elapsed : Nat
  deriving DecidableEq, Repr

namespace Clock

/-- The clock at the start. -/
def start (wall : Timestamp) : Clock := ⟨wall, 0⟩

/-- The clock a number of milliseconds later. -/
def advance (c : Clock) (millis : Nat) : Clock :=
  ⟨c.wall.addNanos (millis * nanosPerMilli), c.elapsed + millis * nanosPerMilli⟩

end Clock
end SessionAuth
