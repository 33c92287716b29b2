/-!
# Points in time

A `Timestamp` counts nanoseconds from 1970-01-01T00:00:00Z.  Deadlines of tokens are whole seconds:
`Timestamp.seconds` rounds down to them, and `secondsUntil` counts the whole seconds of an interval,
rounding towards zero.
-/

set_option autoImplicit false

namespace SessionAuth

/-- A point in time.  A leap second has the nanoseconds of the second that follows it and is told
apart from it by `leap`, which only a text can set. -/
structure Timestamp where
  /-- Nanoseconds since the epoch. -/
  nanos : Int
  /-- Whether the time lies in a leap second. -/
  leap : Bool := false
  deriving DecidableEq, Repr, Inhabited

/-- Nanoseconds in a second. -/
def nanosPerSecond : Nat := 1000000000

/-- Nanoseconds in a millisecond. -/
def nanosPerMilli : Nat := 1000000

namespace Timestamp

/-- The first second of the calendar's range, the start of the year -262143. -/
def minSeconds : Int := -8334601228800

/-- The last second of the calendar's range, the end of the year 262142. -/
def maxSeconds : Int := 8210266876799

/-- The time a number of seconds after the epoch. -/
def ofSeconds (s : Int) : Timestamp := { nanos := s * nanosPerSecond }

/-- The time a number of milliseconds after the epoch. -/
def ofMillis (ms : Int) : Timestamp := { nanos := ms * nanosPerMilli }

/-- The time a number of microseconds after the epoch. -/
def ofMicros (us : Int) : Timestamp := { nanos := us * 1000 }

/-- The earliest time of the calendar's range. -/
def earliest : Timestamp := ofSeconds minSeconds

/-- The time a number of seconds after the epoch, if it is in the calendar's range. -/
def ofSeconds? (s : Int) : Option Timestamp :=
  if minSeconds ≤ s ∧ s ≤ maxSeconds then some (ofSeconds s) else none

/-- The whole seconds since the epoch, rounded down. -/
def seconds (t : Timestamp) : Int := t.nanos / nanosPerSecond

/-- The time a number of nanoseconds later. -/
def addNanos (t : Timestamp) (n : Int) : Timestamp := { nanos := t.nanos + n }

/-- The time a number of seconds later. -/
def addSeconds (t : Timestamp) (s : Int) : Timestamp := t.addNanos (s * nanosPerSecond)

/-- The whole seconds from one time to another, rounded towards zero. -/
def secondsUntil (t u : Timestamp) : Int := Int.tdiv (u.nanos - t.nanos) nanosPerSecond

/-- The second that a time belongs to; a leap second continues the one before it. -/
def second (t : Timestamp) : Int := if t.leap then t.seconds - 1 else t.seconds

/-- How far a time is into its second, in nanoseconds. -/
def intoSecond (t : Timestamp) : Int := t.nanos - t.second * nanosPerSecond

instance : Ord Timestamp := ⟨compareLex (compareOn second) (compareOn intoSecond)⟩

instance : Std.TransOrd Timestamp :=
  inferInstanceAs (Std.TransCmp (compareLex (compareOn second) (compareOn intoSecond)))

instance : Std.LawfulEqOrd Timestamp where
  eq_of_compare {a b} h := by
    obtain ⟨hsecond, hinto⟩ := Ordering.then_eq_eq.1 h
    have hsecond : a.second = b.second := Std.LawfulEqCmp.eq_of_compare hsecond
    have hinto : a.intoSecond = b.intoSecond := Std.LawfulEqCmp.eq_of_compare hinto
    have hnanos : a.nanos = b.nanos := by
      simp only [intoSecond, hsecond] at hinto
      omega
    have hleap : a.leap = b.leap := by
      simp only [second, seconds, hnanos] at hsecond
      cases ha : a.leap <;> cases hb : b.leap
      case false.false | true.true => rfl
      all_goals
        simp only [ha, hb, if_true, Bool.false_eq_true, if_false] at hsecond
        omega
    cases a
    cases b
    simp_all

theorem seconds_ofSeconds (s : Int) : (ofSeconds s).seconds = s := by
  simp only [seconds, ofSeconds]
  exact Int.mul_ediv_cancel s (by decide)

end Timestamp
end SessionAuth
