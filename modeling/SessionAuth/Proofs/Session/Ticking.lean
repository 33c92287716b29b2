import SessionAuth.Session.Sweeper

/-!
# When a sweeper sweeps

A sweeper waits for two things at once, its next sweep and what it is told.  Between two looks at
them any amount of time may pass and any number of values may be sent, of which it sees the last
one; and where a sweep is due and it is told to stop as well, either may come first.  Such a `Turn`
is what a run is made of, together with what others do to the store in between.

* `sweeper?_eq_some` and `sweeper?_eq_none` say for which settings there is a sweeper; those without
  one are accepted like the others (`accepted_without_sweeper`).
* `wake_waiting` is what a sweeper does at one time, `SweptStore.Keeps` what it does in one turn.
* `sweeper_keeps_schedule` says what it does in a run: the first sweep comes no earlier than one
  interval after the start; a turn that reaches the time of the next sweep makes one sweep, however
  many intervals it spans; and after a turn that told the sweeper to stop there are none.
-/

set_option autoImplicit false

namespace SessionAuth

/-! ## Starting -/

namespace SessionSettings

variable {s : SessionSettings}

/-- A minute is longer than the time by which a sweep may be late without notice. -/
theorem tolerance_lt_sweepInterval (h : s.sweepIntervalMinutes ≠ 0) :
    Sweeper.tolerance < s.sweepInterval * nanosPerSecond := by
  have hminute : 60 ≤ s.sweepInterval := le_secondsOf h (by decide)
  exact Nat.lt_of_lt_of_le (by decide : Sweeper.tolerance < 60 * nanosPerSecond)
    (Nat.mul_le_mul_right _ hminute)

theorem sweeper?_eq_some (h : s.sweepIntervalMinutes ≠ 0) (now : Nat) :
    s.sweeper? now = some (.waiting (s.sweepInterval * nanosPerSecond)
      (now + s.sweepInterval * nanosPerSecond)) :=
  if_neg (Nat.ne_zero_of_lt (tolerance_lt_sweepInterval h))

theorem sweeper?_eq_none (h : s.sweepIntervalMinutes = 0) (now : Nat) : s.sweeper? now = none := by
  have hzero : s.sweepInterval * nanosPerSecond = 0 := by
    rw [sweepInterval, h]
    decide
  exact if_pos hzero

end SessionSettings

/-! ## What is due -/

namespace Sweeper

variable {interval due now : Nat}

/-- The time of the next sweep, once the time is `now` and the sweep that was due at `due` is
made. -/
def next (interval due now : Nat) : Nat :=
  if now < due then due
  else if due + tolerance < now then now + interval
  else due + interval

theorem le_next : due ≤ next interval due now := by
  rw [next]
  split
  · exact Nat.le_refl due
  split <;> omega

theorem lt_next (h : tolerance < interval) : now < next interval due now := by
  rw [next]
  split
  · assumption
  split <;> omega

/-- Only one sweep is made at a time: those that were missed are not made up for. -/
theorem wake_waiting (h : tolerance < interval) (due now : Nat) :
    (waiting interval due).wake now =
      (if due ≤ now then 1 else 0, waiting interval (next interval due now)) := by
  rw [wake, next]
  by_cases hdue : now < due
  · rw [if_pos hdue, if_pos hdue, if_neg (Nat.not_le.2 hdue)]
  rw [if_neg hdue, if_neg hdue, if_pos (Nat.le_of_not_lt hdue)]
  by_cases hlate : due + tolerance < now
  · rw [if_pos hlate, if_pos hlate]
  · -- a sweep that is hardly late is nowhere near the one after it
    have hnone : (now - due) / interval = 0 := Nat.div_eq_of_lt (by omega)
    rw [if_neg hlate, if_neg hlate]
    simp only [hnone, Nat.zero_add, Nat.one_mul]

/-! ## Turns -/

/-- What happens until a sweeper has looked once more at the clock and at the channel. -/
structure Turn where
  /-- How many milliseconds pass. -/
  millis : Nat
  /-- The values that are sent. -/
  sent : List Bool := []
  /-- Whether the sender is dropped. -/
  isDropped : Bool := false
  /-- Whether the sweeper looks at the clock first. -/
  clockFirst : Bool := true

/-- Whether a sweeper is told in a turn to stop.  Of the values that are sent only the last one is
seen; as long as none but `false` is sent, the sweeper goes on. -/
def Turn.Stops (t : Turn) : Prop := t.sent.getLast? = some true ∨ t.isDropped

instance (t : Turn) : Decidable t.Stops := inferInstanceAs (Decidable (_ ∨ _))

/-- The sweeper after it has looked at the channel. -/
def hear (t : Turn) (s : Sweeper) : Sweeper :=
  let told := t.sent.getLast?.elim s fun stop => s.tell stop
  if t.isDropped then told.abandon else told

theorem hear_ended (t : Turn) : ended.hear t = ended := by
  rw [hear]
  cases t.sent.getLast? <;> split <;> rfl

theorem hear_of_stops {t : Turn} (h : t.Stops) (s : Sweeper) : s.hear t = ended := by
  rw [hear]
  split
  · rfl
  · rename_i hdropped
    rw [h.resolve_right hdropped]
    cases s <;> rfl

theorem hear_waiting {t : Turn} (h : ¬ t.Stops) (due : Nat) :
    (waiting interval due).hear t = waiting interval due := by
  obtain ⟨hlast, hdropped⟩ := not_or.1 h
  rw [hear, if_neg hdropped]
  match hsent : t.sent.getLast? with
  | none | some false => rfl
  | some true => exact absurd hsent hlast

end Sweeper

namespace SweptStore

open Sweeper (Turn)

/-- The time at the end of a turn. -/
def timeAfter (t : Turn) (s : SweptStore) : Nat := (s.clock.advance t.millis).elapsed

/-- The store after the sweeper has looked at the channel. -/
def hear (t : Turn) (s : SweptStore) : SweptStore := { s with sweeper := s.sweeper.hear t }

/-- The store after a turn. -/
def turn (t : Turn) (s : SweptStore) : SweptStore :=
  if t.clockFirst then (s.advance t.millis).hear t else (s.hear t).advance t.millis

/-- How many sweeps are made in a turn. -/
def sweeps (t : Turn) (s : SweptStore) : Nat :=
  ((if t.clockFirst then s.sweeper else s.sweeper.hear t).wake (s.timeAfter t)).1

/-- What a sweep at some time makes of the sessions. -/
def sweptAt (now : Nat) (store : SessionStore) : SessionStore :=
  (SessionStore.sweepAll.runOn (SessionStore.answer now) store).2

/-- Only the sessions change when the store is used. -/
theorem run_snd {α : Type} (p : Fallible SessionStore.interface α) (s : SweptStore) :
    (s.run p).2 = { s with store := (p.runOn (SessionStore.answer s.clock.elapsed) s.store).2 } :=
  rfl

theorem sweep_one (s : SweptStore) :
    sweep 1 s = { s with store := sweptAt s.clock.elapsed s.store } :=
  run_snd SessionStore.sweepAll s

theorem advance_eq {s : SweptStore} {millis n : Nat} {sweeper : Sweeper}
    (h : s.sweeper.wake (s.clock.advance millis).elapsed = (n, sweeper)) :
    s.advance millis = sweep n { s with clock := s.clock.advance millis, sweeper := sweeper } := by
  simp only [advance, h]

theorem advance_ended (millis : Nat) (clock : Clock) (store : SessionStore) :
    (⟨clock, store, .ended⟩ : SweptStore).advance millis = ⟨clock.advance millis, store, .ended⟩ :=
  rfl

theorem advance_waiting {interval : Nat} (h : Sweeper.tolerance < interval) (due millis : Nat)
    (clock : Clock) (store : SessionStore) :
    (⟨clock, store, .waiting interval due⟩ : SweptStore).advance millis =
      let now := (clock.advance millis).elapsed
      ⟨clock.advance millis, if due ≤ now then sweptAt now store else store,
        .waiting interval (Sweeper.next interval due now)⟩ := by
  rw [advance_eq (Sweeper.wake_waiting h due _)]
  by_cases hdue : due ≤ (clock.advance millis).elapsed
  · simp only [if_pos hdue, sweep_one]
  · simp only [if_neg hdue, sweep]

/-- What a turn does to a store whose sweeper waits for the time `due`. -/
structure Keeps (interval due : Nat) (t : Turn) (s : SweptStore) : Prop where
  clock : (s.turn t).clock = s.clock.advance t.millis
  /-- There is one sweep if the time is reached, unless the sweeper has heard before that it is to
  stop. -/
  sweeps : s.sweeps t = if due ≤ s.timeAfter t ∧ (t.Stops → t.clockFirst) then 1 else 0
  store : (s.turn t).store = if s.sweeps t = 1 then sweptAt (s.timeAfter t) s.store else s.store
  sweeper : (s.turn t).sweeper =
    if t.Stops then .ended else .waiting interval (Sweeper.next interval due (s.timeAfter t))

/-- A sweeper that has ended does nothing any more. -/
structure Rests (t : Turn) (s : SweptStore) : Prop where
  sweeps : s.sweeps t = 0
  store : (s.turn t).store = s.store
  sweeper : (s.turn t).sweeper = .ended

theorem rests {s : SweptStore} (h : s.sweeper = .ended) (t : Turn) : s.Rests t := by
  obtain ⟨clock, store, sweeper⟩ := s
  obtain rfl : sweeper = .ended := h
  have hhear := Sweeper.hear_ended t
  constructor <;> simp [sweeps, Sweeper.wake, turn, hear, hhear, advance_ended]

theorem keeps {s : SweptStore} {interval due : Nat} (h : s.sweeper = .waiting interval due)
    (hinterval : Sweeper.tolerance < interval) (t : Turn) : s.Keeps interval due t := by
  obtain ⟨clock, store, sweeper⟩ := s
  obtain rfl : sweeper = .waiting interval due := h
  have hwake := Sweeper.wake_waiting hinterval
  have hadvance := advance_waiting hinterval
  by_cases hstops : t.Stops
  · -- the order of the looks decides whether there is a last sweep
    have hhear := Sweeper.hear_of_stops hstops
    by_cases hclock : t.clockFirst
    · constructor <;> simp [sweeps, turn, hear, timeAfter, *]
    · constructor <;> simp [sweeps, turn, hear, timeAfter, *, advance_ended, Sweeper.wake]
  · have hhear : ∀ due, (Sweeper.waiting interval due).hear t = .waiting interval due :=
      Sweeper.hear_waiting hstops
    by_cases hclock : t.clockFirst
    · constructor <;> simp [sweeps, turn, hear, timeAfter, *]
    · constructor <;> simp [sweeps, turn, hear, timeAfter, *]

/-! ## Runs -/

/-- What happens to a store with a sweeper. -/
inductive Move where
  | turn (t : Turn)
  /-- Somebody else uses the store. -/
  | use (p : Fallible SessionStore.interface Unit)

/-- Whether a sweeper is told in a move to stop. -/
def Move.Stops : Move → Prop
  | turn t => t.Stops
  | use _ => False

/-- The store after a move. -/
def step (s : SweptStore) : Move → SweptStore
  | .turn t => s.turn t
  | .use p => (s.run p).2

/-- The store after some moves. -/
def after (s : SweptStore) (moves : List Move) : SweptStore := moves.foldl step s

/-- Whether the sweeper, which started at the time `start`, waits for the time `due`. -/
structure Waits (interval start due : Nat) (s : SweptStore) : Prop where
  sweeper : s.sweeper = .waiting interval due
  start_le : start + interval ≤ due
  now_lt : s.clock.elapsed < due

section

variable {s : SweptStore} {interval start due : Nat}

theorem ended_step (h : s.sweeper = .ended) (m : Move) : (s.step m).sweeper = .ended := by
  cases m with
  | turn t => exact (rests h t).sweeper
  | use => exact h

theorem Waits.ended_step (h : s.Waits interval start due) (hinterval : Sweeper.tolerance < interval)
    {m : Move} (hstops : m.Stops) : (s.step m).sweeper = .ended := by
  cases m with
  | turn t => exact (keeps h.sweeper hinterval t).sweeper.trans (if_pos hstops)
  | use => exact hstops.elim

/-- The time of the next sweep is always still to come. -/
theorem Waits.step (h : s.Waits interval start due) (hinterval : Sweeper.tolerance < interval)
    {m : Move} (hstops : ¬ m.Stops) : ∃ due, (s.step m).Waits interval start due := by
  cases m with
  | turn t =>
    have hkeeps := keeps h.sweeper hinterval t
    refine ⟨_, hkeeps.sweeper.trans (if_neg hstops), Nat.le_trans h.start_le Sweeper.le_next, ?_⟩
    show (s.turn t).clock.elapsed < _
    rw [hkeeps.clock]
    exact Sweeper.lt_next hinterval
  | use => exact ⟨due, h.sweeper, h.start_le, h.now_lt⟩

theorem ended_after (h : s.sweeper = .ended) (moves : List Move) :
    (s.after moves).sweeper = .ended := by
  induction moves generalizing s with
  | nil => exact h
  | cons m moves ih => exact ih (ended_step h m)

theorem Waits.after (h : s.Waits interval start due) (hinterval : Sweeper.tolerance < interval)
    {moves : List Move} (hmoves : ∀ m ∈ moves, ¬ m.Stops) :
    ∃ due, (s.after moves).Waits interval start due := by
  induction moves generalizing s due with
  | nil => exact ⟨due, h⟩
  | cons m moves ih =>
    obtain ⟨hm, hmoves⟩ := List.forall_mem_cons.1 hmoves
    obtain ⟨due', h'⟩ := h.step hinterval hm
    exact ih h' hmoves

theorem Waits.ended_after (h : s.Waits interval start due)
    (hinterval : Sweeper.tolerance < interval) {moves : List Move}
    (hmoves : ∃ m ∈ moves, m.Stops) : (s.after moves).sweeper = .ended := by
  induction moves generalizing s due with
  | nil =>
    obtain ⟨m, hm, -⟩ := hmoves
    exact absurd hm List.not_mem_nil
  | cons m moves ih =>
    -- the first move that tells it to stop is this one or a later one
    by_cases hm : m.Stops
    · exact SweptStore.ended_after (h.ended_step hinterval hm) moves
    · obtain ⟨due', h'⟩ := h.step hinterval hm
      obtain ⟨m', hm', hstops⟩ := hmoves
      obtain rfl | hm' := List.mem_cons.1 hm'
      · exact absurd hstops hm
      · exact ih h' ⟨m', hm', hstops⟩

end

/-- **A sweeper keeps its schedule.**  With a time between sweeps there is a sweeper, and in any run
it waits, until it is told to stop, for a time that is still to come and not earlier than one
interval after its start.  In a turn that does not reach that time there is no sweep, and in one
that does there is one; the next one follows an interval later.  Once it was told to stop, there are
no more sweeps. -/
theorem sweeper_keeps_schedule {settings : SessionSettings} (h : settings.sweepIntervalMinutes ≠ 0)
    (s : SweptStore) :
    let interval := settings.sweepInterval * nanosPerSecond
    ∃ sweeper, settings.sweeper? s.clock.elapsed = some sweeper ∧ ∀ moves,
      let present := ({ s with sweeper := sweeper } : SweptStore).after moves
      ((∀ m ∈ moves, ¬ m.Stops) → ∃ due, present.Waits interval s.clock.elapsed due ∧
        ∀ t, present.Keeps interval due t) ∧
      ((∃ m ∈ moves, m.Stops) → ∀ t, present.Rests t) := by
  intro interval
  have hinterval := SessionSettings.tolerance_lt_sweepInterval h
  have hstart : SweptStore.Waits interval s.clock.elapsed (s.clock.elapsed + interval)
      { s with sweeper := .waiting interval (s.clock.elapsed + interval) } :=
    ⟨rfl, Nat.le_refl _, Nat.lt_add_of_pos_right (Nat.zero_lt_of_lt hinterval)⟩
  refine ⟨_, SessionSettings.sweeper?_eq_some h _,
    fun moves => ⟨fun hmoves => ?_, fun hmoves => ?_⟩⟩
  · obtain ⟨due, hwaits⟩ := hstart.after hinterval hmoves
    exact ⟨due, hwaits, keeps hwaits.sweeper hinterval⟩
  · exact rests (hstart.ended_after hinterval hmoves)

/-- A sweeper that was told to go on makes one sweep in a turn of more than three intervals, and
after it was told to stop none. -/
theorem sweeper_keeps_schedule_minutely :
    let settings : SessionSettings := { sweepIntervalMinutes := 1 }
    let s := start (.ofSeconds 1700000000)
    let goOn : Turn := { millis := 59999, sent := [true, false] }
    let stop : Turn := { millis := 1, sent := [true] }
    let long : Turn := { millis := 200000 }
    settings.sweepIntervalMinutes ≠ 0 ∧ ∃ sweeper, settings.sweeper? 0 = some sweeper ∧
      (({ s with sweeper := sweeper } : SweptStore).after [.turn goOn]).sweeps long = 1 ∧
      (({ s with sweeper := sweeper } : SweptStore).after [.turn goOn, .turn stop]).sweeps long = 0
      := by
  intro settings s goOn stop long
  obtain ⟨sweeper, hsweeper, hruns⟩ :=
    sweeper_keeps_schedule (by decide : settings.sweepIntervalMinutes ≠ 0) s
  obtain rfl : .waiting 60000000000 60000000000 = sweeper :=
    Option.some.inj ((by decide : settings.sweeper? 0 = _).symm.trans hsweeper)
  have hgoOn : ¬ (Move.turn goOn).Stops := show ¬ goOn.Stops by decide
  obtain ⟨due, hwaits, hkeeps⟩ := (hruns [.turn goOn]).1 (List.forall_mem_singleton.2 hgoOn)
  have hwaiting : (({ s with sweeper := .waiting 60000000000 60000000000 } : SweptStore).after
      [.turn goOn]).sweeper = .waiting 60000000000 60000000000 := by decide +kernel
  obtain rfl : 60000000000 = due := (Sweeper.waiting.inj (hwaiting.symm.trans hwaits.sweeper)).2
  have hstop : (Move.turn stop).Stops := .inl rfl
  have hrests := (hruns [.turn goOn, .turn stop]).2
    ⟨_, List.mem_cons_of_mem _ List.mem_cons_self, hstop⟩
  exact ⟨by decide, _, hsweeper, (hkeeps long).sweeps.trans (by decide), (hrests long).sweeps⟩

/-- Settings are accepted even if they leave no time between sweeps, so that there is no sweeper. -/
theorem accepted_without_sweeper :
    let settings : Settings := {
      database := { url := "postgres://localhost/authgate" }
      auth := { jwtSecret := "0123456789abcdef0123456789abcdef" }
      session := { sweepIntervalMinutes := 0 } }
    settings.check = .ok () ∧ settings.session.sweeper? 0 = none :=
  ⟨rfl, SessionSettings.sweeper?_eq_none rfl 0⟩

end SweptStore
end SessionAuth
