import SessionAuth.Session.Store
import SessionAuth.Settings.Basic
import SessionAuth.Time.Clock

/-!
# The sweeper

A sweeper runs beside a session store and sweeps it at regular intervals, the first time one
interval after its start.  It ends when it is told to, or when there is nobody left who could tell
it.  A sweep that comes late, since time passed in one jump, counts for all that were missed, and
the next one follows an interval later; a sweep that is hardly late leaves the schedule as it is.
-/

set_option autoImplicit false

namespace SessionAuth

/-- A sweeper: its schedule, or that it has ended. -/
inductive Sweeper where
  /-- Sweeps next at the time `due`. -/
  | waiting (interval due : Nat)
  | ended
  deriving DecidableEq, Repr

namespace Sweeper

/-- A sweeper that starts now; there is none without an interval. -/
def start? (interval now : Nat) : Option Sweeper :=
  if interval = 0 then none else some (waiting interval (now + interval))

/-- By how many nanoseconds a sweep may be late without a change of the schedule. -/
def tolerance : Nat := 5 * nanosPerMilli

/-- The number of sweeps that are made once the time is `now`, and the sweeper after them. -/
def wake (now : Nat) : Sweeper → Nat × Sweeper
  | ended => (0, ended)
  | waiting interval due =>
    if now < due then (0, waiting interval due)
    else if due + tolerance < now then (1, waiting interval (now + interval))
    else
      let sweeps := (now - due) / interval + 1
      (sweeps, waiting interval (due + sweeps * interval))

/-- The sweeper after it is told to stop, or to go on. -/
def tell (stop : Bool) : Sweeper → Sweeper
  | waiting interval due => if stop then ended else waiting interval due
  | ended => ended

/-- The sweeper after those who could tell it to stop are gone. -/
def abandon (_ : Sweeper) : Sweeper := ended

/-- Whether a sweeper has ended. -/
def hasEnded : Sweeper → Bool
  | waiting _ _ => false
  | ended => true

end Sweeper

/-- The sweeper that the settings ask for, started now.  The interval is taken to fit the range of
the clock, so that the first sweep is due one interval from now; a timer that cannot hold this time
waits for one some thirty years ahead instead. -/
def SessionSettings.sweeper? (s : SessionSettings) (now : Nat) : Option Sweeper :=
  Sweeper.start? (s.sweepInterval * nanosPerSecond) now

/-- A session store with a clock and a sweeper beside it. -/
structure SweptStore where
  clock : Clock
  store : SessionStore
  sweeper : Sweeper

namespace SweptStore

/-- An empty store that starts at the given time, without a sweeper. -/
def start (wall : Timestamp) : SweptStore := ⟨.start wall, .empty, .ended⟩

/-- Runs a program on the store. -/
def run {α : Type} (p : Fallible SessionStore.interface α) (s : SweptStore) :
    Except Error α × SweptStore :=
  let (result, store) := p.runOn (SessionStore.answer s.clock.elapsed) s.store
  (result, { s with store := store })

/-- Sweeps a number of times. -/
def sweep : Nat → SweptStore → SweptStore
  | 0, s => s
  | n + 1, s => sweep n (s.run SessionStore.sweepAll).2

/-- Lets time pass, after which the sweeps that are due are made. -/
def advance (millis : Nat) (s : SweptStore) : SweptStore :=
  let clock := s.clock.advance millis
  let (sweeps, sweeper) := s.sweeper.wake clock.elapsed
  sweep sweeps { s with clock := clock, sweeper := sweeper }

end SweptStore
end SessionAuth
