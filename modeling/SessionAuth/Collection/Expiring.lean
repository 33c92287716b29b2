/-!
# Values that expire

A value with a deadline is live before its deadline and gone from then on.  Times are nanoseconds on
a clock that never goes back.
-/

set_option autoImplicit false

namespace SessionAuth

/-- A value that is gone from its deadline on. -/
structure Expiring (α : Type) where
  value : α
  deadline : Nat
  deriving DecidableEq, Repr

namespace Expiring

variable {α β : Type}

/-- Whether a value is still there. -/
def isLive (now : Nat) (e : Expiring α) : Bool := decide (now < e.deadline)

/-- The value, if it is still there. -/
def live? (now : Nat) (e : Option (Expiring α)) : Option α :=
  (e.filter (·.isLive now)).map (·.value)

/-- The value with a function applied to it. -/
def map (f : α → β) (e : Expiring α) : Expiring β := ⟨f e.value, e.deadline⟩

@[simp] theorem isLive_iff {now : Nat} {e : Expiring α} : e.isLive now ↔ now < e.deadline := by
  simp [isLive]

theorem live?_eq_some_iff {now : Nat} {e : Option (Expiring α)} {a : α} :
    live? now e = some a ↔ ∃ x, e = some x ∧ now < x.deadline ∧ x.value = a := by
  cases e with
  | none => simp [live?]
  | some x => by_cases h : now < x.deadline <;> simp [live?, Option.filter, isLive, h]

theorem live?_eq_none_iff {now : Nat} {e : Option (Expiring α)} :
    live? now e = none ↔ ∀ x, e = some x → x.deadline ≤ now := by
  cases e with
  | none => simp [live?]
  | some x =>
    by_cases h : now < x.deadline
    · simp [live?, Option.filter, isLive, h]
    · simp [live?, Option.filter, isLive, h, Nat.not_lt.1 h]

end Expiring
end SessionAuth
