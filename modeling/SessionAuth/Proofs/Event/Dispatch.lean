import Mathlib.Data.List.Induction
import Mathlib.Order.Lattice
import SessionAuth.Event.Bus

/-!
# Every handler gets every event once

A bus runs through any sequence of moves: events are published, time passes, tasks get to run, and
now and then somebody waits until none is left.  What the bus reports about a run can be told from
the registrations and the published events alone.  Each of the `jobs` - an event together with a
handler that is registered for its kind - begins once, in the order of publication, and ends once
(`Dispatched`); how it ends is up to its handler, unless that takes longer than the timeout.

Waiting leaves no task behind (`tasks_wait`).  That is shown with what holds whenever tasks have
run: all have begun and have time left (`AtWork`), so that the next end of a task comes later and
leaves fewer of them.
-/

set_option autoImplicit false

namespace SessionAuth

/-! ## Registering -/

/-- The registry that is built by registering one entry after the other. -/
def Registry.ofList {H : Type} (entries : List (EventKind × H)) : Registry H :=
  entries.foldl (fun r e => r.register e.1 e.2) .empty

theorem Registry.ofList_eq {H : Type} (entries : List (EventKind × H)) :
    Registry.ofList entries = ⟨entries⟩ := by
  have happend : ∀ r : Registry H,
      entries.foldl (fun r e => r.register e.1 e.2) r = ⟨r.entries ++ entries⟩ := by
    induction entries with
    | nil => simp
    | cons e es ih =>
      intro r
      rw [List.foldl_cons, ih, register, List.append_assoc, List.singleton_append]
  exact happend .empty

/-- An event together with a handler that is to handle it. -/
abbrev Job : Type := Handler × Event

/-- What reports tell of a job. -/
def Job.label (j : Job) : String × Event := (j.1.name, j.2)

/-- How a job may end: as its handler does, or, if that takes too long, at the timeout.

Reports carry no time, so that this cannot say when a handler that takes too long is cut off; it is
as soon as its task gets to run with the timeout over (`Task.ending?_eq_some_iff`).  Such a handler
may still end in its own way, since a task does not run while time passes: if the clock jumps over
both the timeout and the end of the handler, the task finds the handler done when it gets to run. -/
def Job.Ends (timeout : Nat) (j : Job) (ending : Ending) : Prop :=
  ending = j.1.ending j.2 ∨ timeout < j.1.duration j.2 ∧ ending = .cutOff

namespace Report

/-- The job that a report says has begun. -/
def begun? : Report → Option (String × Event)
  | began handler event => some (handler, event)
  | ended _ _ _ => none

/-- The job that a report says has ended, and how. -/
def ended? : Report → Option ((String × Event) × Ending)
  | began _ _ => none
  | ended handler event ending => some ((handler, event), ending)

end Report

namespace Task

variable {timeout now begun : Nat} {t : Task}

def job (t : Task) : Job := (t.handler, t.event)

/-! ## One task -/

theorem ending?_eq_none_iff : t.ending? timeout now begun = none ↔ now < t.limit timeout begun := by
  rw [ending?, limit]
  split
  · simp only [reduceCtorEq, false_iff]
    omega
  · split
    · simp only [reduceCtorEq, false_iff]
      omega
    · simp only [true_iff]
      omega

/-- A task is cut off from the timeout on, until its handler is done; from then on it ends as its
handler does. -/
theorem ending?_eq_some_iff {ending : Ending} : t.ending? timeout now begun = some ending ↔
    begun + t.handler.duration t.event ≤ now ∧ ending = t.handler.ending t.event ∨
      (begun + timeout ≤ now ∧ now < begun + t.handler.duration t.event) ∧ ending = .cutOff := by
  rw [ending?]
  by_cases hdone : begun + t.handler.duration t.event ≤ now
  · simp [hdone, Nat.not_lt.2 hdone, eq_comm]
  · by_cases hover : begun + timeout ≤ now <;>
      simp [hdone, hover, Nat.not_le.1 hdone, eq_comm]

theorem ends_of_ending? {ending : Ending} (h : t.ending? timeout now begun = some ending) :
    t.job.Ends timeout ending := by
  rcases ending?_eq_some_iff.1 h with ⟨-, hown⟩ | ⟨⟨hover, hbusy⟩, hcut⟩
  · exact .inl hown
  · exact .inr ⟨Nat.lt_of_add_lt_add_left (Nat.lt_of_le_of_lt hover hbusy), hcut⟩

/-- A task is left if it has time left, and then it has begun. -/
theorem settle_eq_some_iff {t' : Task} : (t.settle timeout now).2 = some t' ↔
    t' = { t with begun := some (t.begun.getD now) } ∧
      now < t.limit timeout (t.begun.getD now) := by
  rw [← ending?_eq_none_iff, settle]
  cases h : t.ending? timeout now (t.begun.getD now) with
  | none => simp [eq_comm]
  | some ending => simp

/-- A task reports that it begins, if it has not begun before, and that it ends, if it does. -/
theorem reports_settle : (t.settle timeout now).1 =
    (if t.begun.isNone then [.began t.handler.name t.event] else []) ++
      match t.ending? timeout now (t.begun.getD now) with
      | some ending => [.ended t.handler.name t.event ending]
      | none => [] := by
  rw [settle]
  cases t.ending? timeout now (t.begun.getD now) with
  | none => rw [List.append_nil]
  | some ending => rfl

theorem begun_settle : (t.settle timeout now).1.filterMap Report.begun? =
    if t.begun.isNone then [t.job.label] else [] := by
  rw [reports_settle, List.filterMap_append]
  cases t.ending? timeout now (t.begun.getD now) <;> cases t.begun <;> rfl

theorem ended_settle : (t.settle timeout now).1.filterMap Report.ended? =
    match t.ending? timeout now (t.begun.getD now) with
    | some ending => [(t.job.label, ending)]
    | none => [] := by
  rw [reports_settle, List.filterMap_append]
  cases t.ending? timeout now (t.begun.getD now) <;> cases t.begun <;> rfl

end Task

namespace Bus

/-! ## Runs -/

/-- What can happen to a bus. -/
inductive Move where
  | publish (e : Event)
  /-- The tasks run until they have ended or wait. -/
  | settle
  /-- Time passes. -/
  | advance (nanos : Nat)
  /-- Somebody waits until no task is left. -/
  | wait

/-- A bus at some time. -/
@[ext] structure Moment where
  now : Nat
  bus : Bus

namespace Moment

/-- A new bus with the given registrations. -/
def start (entries : List (EventKind × Handler)) (timeout now : Nat) : Moment :=
  ⟨now, .start (.ofList entries) timeout⟩

def step (m : Moment) : Move → Moment
  | .publish e => ⟨m.now, (m.bus.publish e).2⟩
  | .settle => ⟨m.now, m.bus.settle m.now⟩
  | .advance nanos => ⟨m.now + nanos, m.bus⟩
  | .wait => ⟨(m.bus.wait m.now).1, (m.bus.wait m.now).2⟩

def after (m : Moment) (moves : List Move) : Moment := moves.foldl step m

theorem after_concat (m : Moment) (moves : List Move) (move : Move) :
    m.after (moves ++ [move]) = (m.after moves).step move := by
  simp [after]

end Moment

/-- The jobs that an event brings, in the order of the registrations. -/
def jobsOf (entries : List (EventKind × Handler)) (e : Event) : List Job :=
  (entries.filter fun entry => entry.1 == e.kind).map fun entry => (entry.2, e)

/-- The jobs of a run, in the order of publication. -/
def jobs (entries : List (EventKind × Handler)) (moves : List Move) : List Job :=
  moves.flatMap fun
    | .publish e => jobsOf entries e
    | _ => []

/-- The jobs that have begun, in the order in which they did. -/
def begun (b : Bus) : List (String × Event) := b.reports.filterMap Report.begun?

/-- The jobs that have ended, and how. -/
def ended (b : Bus) : List ((String × Event) × Ending) := b.reports.filterMap Report.ended?

/-- The jobs that have not begun. -/
def unbegun (b : Bus) : List Job := (b.tasks.filter (·.begun.isNone)).map Task.job

/-- Whether a bus has done what it should with some jobs: each begins once, in their order, and each
is in flight or has ended once, as it may. -/
structure Dispatched (js : List Job) (b : Bus) : Prop where
  begun : b.begun ++ b.unbegun.map Job.label = js.map Job.label
  ended : ∃ fates : List (Job × Ending), b.ended = fates.map (fun x => (x.1.label, x.2)) ∧
    (fates.map (·.1) ++ b.tasks.map Task.job).Perm js ∧ ∀ x ∈ fates, x.1.Ends b.timeout x.2

/-! ## Tasks that run -/

variable {b : Bus} {now : Nat} {js : List Job}

theorem begun_settle (b : Bus) (now : Nat) :
    (b.settle now).begun = b.begun ++ b.unbegun.map Job.label := by
  have htasks : ∀ ts : List Task, ((ts.map (Task.settle b.timeout now)).flatMap (·.1)).filterMap
      Report.begun? = ((ts.filter (·.begun.isNone)).map Task.job).map Job.label := by
    intro ts
    induction ts with
    | nil => rfl
    | cons t ts ih =>
      rw [List.map_cons, List.flatMap_cons, List.filterMap_append, ih, Task.begun_settle]
      cases h : t.begun.isNone <;> simp [h]
  rw [begun, settle, List.filterMap_append, htasks]
  rfl

theorem unbegun_settle (b : Bus) (now : Nat) : (b.settle now).unbegun = [] := by
  have hbegun : ∀ t ∈ (b.settle now).tasks, t.begun.isNone = false := by
    intro t ht
    obtain ⟨r, hr, hsome⟩ := List.mem_filterMap.1 ht
    obtain ⟨t₀, -, rfl⟩ := List.mem_map.1 hr
    obtain ⟨rfl, -⟩ := Task.settle_eq_some_iff.1 hsome
    rfl
  rw [unbegun, List.filter_eq_nil_iff.2 fun t ht => by simp [hbegun t ht], List.map_nil]

/-- Running tasks end some of them and leave the others. -/
theorem settle_perm (timeout now : Nat) (ts : List Task) : ∃ fates : List (Job × Ending),
    ((ts.map (Task.settle timeout now)).flatMap (·.1)).filterMap Report.ended? =
        fates.map (fun x => (x.1.label, x.2)) ∧
      (fates.map (·.1) ++ ((ts.map (Task.settle timeout now)).filterMap (·.2)).map Task.job).Perm
        (ts.map Task.job) ∧
      ∀ x ∈ fates, x.1.Ends timeout x.2 := by
  induction ts with
  | nil => exact ⟨[], rfl, .nil, nofun⟩
  | cons t ts ih =>
    obtain ⟨fates, hended, hperm, hends⟩ := ih
    simp only [List.map_cons, List.flatMap_cons, List.filterMap_append, hended, Task.ended_settle,
      List.filterMap_cons]
    cases h : t.ending? timeout now (t.begun.getD now) with
    | some ending =>
      have hnone : (t.settle timeout now).2 = none := by simp [Task.settle, h]
      rw [hnone]
      refine ⟨(t.job, ending) :: fates, rfl, hperm.cons _, List.forall_mem_cons.2 ⟨?_, hends⟩⟩
      exact Task.ends_of_ending? h
    | none =>
      have hsome := Task.settle_eq_some_iff.2 ⟨rfl, Task.ending?_eq_none_iff.1 h⟩
      rw [hsome]
      exact ⟨fates, rfl, List.perm_middle.trans (hperm.cons _), hends⟩

namespace Dispatched

theorem settle (h : Dispatched js b) (now : Nat) : Dispatched js (b.settle now) := by
  obtain ⟨fates, hended, hperm, hends⟩ := h.ended
  obtain ⟨more, hmore, hperm', hends'⟩ := settle_perm b.timeout now b.tasks
  refine ⟨?_, fates ++ more, ?_, ?_, List.forall_mem_append.2 ⟨hends, hends'⟩⟩
  · rw [unbegun_settle, List.map_nil, List.append_nil, begun_settle, h.begun]
  · rw [Bus.ended, Bus.settle, List.filterMap_append, hmore, List.map_append, ← hended]
    rfl
  · rw [List.map_append, List.append_assoc]
    exact (hperm'.append_left _).trans hperm

theorem publish (h : Dispatched js b) (e : Event) :
    Dispatched (js ++ jobsOf b.registry.entries e) (b.publish e).2 := by
  obtain ⟨fates, hended, hperm, hends⟩ := h.ended
  -- every task of the event stands behind the others and has not begun
  have hjobs : ((b.registry.handlers e.kind).map fun h => (⟨h, e, none⟩ : Task)).map Task.job =
      jobsOf b.registry.entries e := by
    simp [Registry.handlers, jobsOf, Task.job]
  have hunbegun : (b.publish e).2.unbegun = b.unbegun ++ jobsOf b.registry.entries e := by
    rw [unbegun, Bus.publish, List.filter_append, List.map_append, ← hjobs]
    congr 2
    exact List.filter_eq_self.2 (by simp)
  refine ⟨?_, fates, hended, ?_, hends⟩
  · rw [hunbegun, List.map_append, List.map_append, ← h.begun, List.append_assoc]
    rfl
  · rw [Bus.publish, List.map_append, hjobs, ← List.append_assoc]
    exact hperm.append_right _

/-- A bus without tasks has begun and ended all jobs. -/
theorem of_tasks_eq_nil (h : Dispatched js b) (htasks : b.tasks = []) :
    b.begun = js.map Job.label ∧ ∃ fates : List (Job × Ending),
      b.ended = fates.map (fun x => (x.1.label, x.2)) ∧ (fates.map (·.1)).Perm js ∧
        ∀ x ∈ fates, x.1.Ends b.timeout x.2 := by
  obtain ⟨fates, hended, hperm, hends⟩ := h.ended
  have hbegun := h.begun
  rw [unbegun, htasks] at hbegun
  rw [htasks, List.map_nil, List.append_nil] at hperm
  exact ⟨by simpa using hbegun, fates, hended, hperm, hends⟩

end Dispatched

/-! ## Waiting -/

/-- Whether all tasks have begun and have time left. -/
def AtWork (now : Nat) (b : Bus) : Prop :=
  ∀ t ∈ b.tasks, ∃ s, t.begun = some s ∧ now < t.limit b.timeout s

theorem mem_settle {t : Task} : t ∈ (b.settle now).tasks ↔ ∃ t₀ ∈ b.tasks,
    t = { t₀ with begun := some (t₀.begun.getD now) } ∧
      now < t₀.limit b.timeout (t₀.begun.getD now) := by
  simp only [settle, List.filterMap_map, List.mem_filterMap, Function.comp_apply,
    Task.settle_eq_some_iff]

/-- No task has begun later than now. -/
theorem past_settle (h : ∀ t ∈ b.tasks, ∀ s, t.begun = some s → s ≤ now) :
    ∀ t ∈ (b.settle now).tasks, ∀ s, t.begun = some s → s ≤ now := by
  intro t ht s hs
  obtain ⟨t₀, ht₀, rfl, -⟩ := mem_settle.1 ht
  cases hbegun : t₀.begun with
  | none => rw [hbegun] at hs; exact (Option.some.inj hs).ge
  | some s₀ => rw [hbegun] at hs; exact Option.some.inj hs ▸ h t₀ ht₀ s₀ hbegun

theorem atWork_settle (b : Bus) (now : Nat) : (b.settle now).AtWork now := by
  intro t ht
  obtain ⟨t₀, -, rfl, hlimit⟩ := mem_settle.1 ht
  exact ⟨_, rfl, hlimit⟩

/-- Tasks that have begun and have time left do nothing. -/
theorem AtWork.settle_eq (h : b.AtWork now) : b.settle now = b := by
  have htask : ∀ t ∈ b.tasks, t.settle b.timeout now = ([], some t) := by
    intro t ht
    obtain ⟨s, hs, hlimit⟩ := h t ht
    obtain ⟨handler, event, begun⟩ := t
    cases hs
    simp [Task.settle, Task.ending?_eq_none_iff.2 hlimit]
  have hleft : (b.tasks.map (Task.settle b.timeout now)).filterMap (·.2) = b.tasks := by
    rw [List.map_congr_left htask, List.filterMap_map]
    exact List.filterMap_some
  have hnews : (b.tasks.map (Task.settle b.timeout now)).flatMap (·.1) = [] := by
    rw [List.map_congr_left htask, List.flatMap_map]
    exact List.flatMap_eq_nil_iff.2 fun _ _ => rfl
  rw [settle]
  simp only [hleft, hnews, List.append_nil]

theorem AtWork.mono {next : Nat} (h : b.AtWork next) (hle : now ≤ next) : b.AtWork now := by
  intro t ht
  obtain ⟨s, hs, hlimit⟩ := h t ht
  exact ⟨s, hs, hle.trans_lt hlimit⟩

/-- The next end of a task is later than now, no task has an earlier one, and there is a task that
has it. -/
theorem AtWork.nextTime (h : b.AtWork now) {next : Nat} (hnext : b.nextTime? = some next) :
    now < next ∧ (∀ t ∈ b.tasks, ∀ s, t.begun = some s → next ≤ t.limit b.timeout s) ∧
      ∃ t ∈ b.tasks, ∃ s, t.begun = some s ∧ t.limit b.timeout s = next := by
  obtain ⟨hmem, hleast⟩ := List.min?_eq_some_iff.1 hnext
  obtain ⟨t, ht, htime⟩ := List.mem_filterMap.1 hmem
  obtain ⟨s, hs, rfl⟩ := Option.map_eq_some_iff.1 htime
  obtain ⟨s', hs', hlimit⟩ := h t ht
  cases hs.symm.trans hs'
  refine ⟨hlimit, fun t' ht' s' hs' => hleast _ (List.mem_filterMap.2 ⟨t', ht', ?_⟩),
    t, ht, s, hs, rfl⟩
  rw [hs', Option.map_some]

theorem AtWork.tasks_eq_nil (h : b.AtWork now) (hnext : b.nextTime? = none) : b.tasks = [] := by
  have hnone := List.min?_eq_none_iff.1 hnext
  refine List.eq_nil_iff_forall_not_mem.2 fun t ht => ?_
  obtain ⟨s, hs, -⟩ := h t ht
  have hmem : t.limit b.timeout s ∈ b.tasks.filterMap fun t => t.begun.map (t.limit b.timeout) :=
    List.mem_filterMap.2 ⟨t, ht, by rw [hs, Option.map_some]⟩
  rw [hnone] at hmem
  cases hmem

/-- A task that has no time left is not there afterwards. -/
theorem length_settle_lt {t : Task} (ht : t ∈ b.tasks) {s : Nat} (hs : t.begun = some s)
    (hlimit : t.limit b.timeout s ≤ now) : (b.settle now).tasks.length < b.tasks.length := by
  have hnone : (t.settle b.timeout now).2 = none := by
    refine Option.eq_none_iff_forall_not_mem.2 fun t' ht' => ?_
    have htime := (Task.settle_eq_some_iff.1 ht').2
    rw [hs, Option.getD_some] at htime
    omega
  simp only [settle, List.filterMap_map]
  refine lt_of_le_of_ne (List.length_filterMap_le _ _) fun hlength => ?_
  have hall := List.filterMap_length_eq_length.1 hlength t ht
  simp [hnone] at hall

/-- What every run of the tasks keeps, waiting keeps. -/
theorem waitSteps_induction {P : Bus → Prop} (hsettle : ∀ now b, P b → P (b.settle now))
    (n now : Nat) {b : Bus} (h : P b) : P (waitSteps n now b).2 := by
  induction n generalizing now b with
  | zero => exact h
  | succ n ih =>
    rw [waitSteps]
    split
    · exact ih _ (hsettle _ _ h)
    · exact h

theorem wait_induction {P : Bus → Prop} (hsettle : ∀ now b, P b → P (b.settle now)) (now : Nat)
    {b : Bus} (h : P b) : P (b.wait now).2 :=
  waitSteps_induction hsettle _ _ (hsettle _ _ h)

/-- Going from one end of a task to the next leaves no task. -/
theorem AtWork.tasks_waitSteps {n : Nat} (h : b.AtWork now) (hn : b.tasks.length ≤ n) :
    (waitSteps n now b).2.tasks = [] := by
  induction n generalizing now b with
  | zero => exact List.eq_nil_of_length_eq_zero (Nat.le_zero.1 hn)
  | succ n ih =>
    rw [waitSteps]
    cases hnext : b.nextTime? with
    | none => exact h.tasks_eq_nil hnext
    | some next =>
      obtain ⟨hlt, -, t, ht, s, hs, hlimit⟩ := h.nextTime hnext
      have hfewer := length_settle_lt ht hs hlimit.le
      dsimp only
      rw [max_eq_right hlt.le]
      exact ih (atWork_settle b next) (by omega)

/-- It takes no longer than the longest task. -/
theorem AtWork.waitSteps_le (h : b.AtWork now) (n : Nat) {bound : Nat} (hnow : now ≤ bound)
    (hbound : ∀ t ∈ b.tasks, ∀ s, t.begun = some s → t.limit b.timeout s ≤ bound) :
    now ≤ (waitSteps n now b).1 ∧ (waitSteps n now b).1 ≤ bound := by
  induction n generalizing now b with
  | zero => exact ⟨le_refl _, hnow⟩
  | succ n ih =>
    rw [waitSteps]
    cases hnext : b.nextTime? with
    | none => exact ⟨le_refl _, hnow⟩
    | some next =>
      obtain ⟨hlt, -, t, ht, s, hs, hlimit⟩ := h.nextTime hnext
      dsimp only
      rw [max_eq_right hlt.le]
      have hnext' := ih (atWork_settle b next) (hlimit ▸ hbound t ht s hs) fun t' ht' s' hs' => by
        obtain ⟨t₀, ht₀, rfl, -⟩ := mem_settle.1 ht'
        obtain ⟨s₀, hs₀, -⟩ := h t₀ ht₀
        rw [hs₀] at hs'
        cases hs'
        exact hbound t₀ ht₀ s₀ hs₀
      exact ⟨hlt.le.trans hnext'.1, hnext'.2⟩

/-- **Waiting leaves no task behind.** -/
theorem tasks_wait (b : Bus) (now : Nat) : (b.wait now).2.tasks = [] :=
  (atWork_settle b now).tasks_waitSteps (le_refl _)

/-- Waiting takes no longer than the timeout. -/
theorem wait_le (hpast : ∀ t ∈ b.tasks, ∀ s, t.begun = some s → s ≤ now) :
    now ≤ (b.wait now).1 ∧ (b.wait now).1 ≤ now + b.timeout := by
  refine (atWork_settle b now).waitSteps_le _ (Nat.le_add_right _ _) fun t ht s hs => ?_
  exact (min_le_right _ _).trans (Nat.add_le_add_right (past_settle hpast t ht s hs) _)

/-! ## What holds in every run -/

/-- What is true of a bus after a run. -/
structure Moment.Sound (entries : List (EventKind × Handler)) (timeout : Nat) (moves : List Move)
    (m : Moment) : Prop where
  registered : m.bus.registry.entries = entries
  timeout : m.bus.timeout = timeout
  past : ∀ t ∈ m.bus.tasks, ∀ s, t.begun = some s → s ≤ m.now
  dispatched : Dispatched (jobs entries moves) m.bus

namespace Moment

variable {entries : List (EventKind × Handler)} {timeout : Nat} {moves : List Move} {m : Moment}

theorem jobs_concat (entries : List (EventKind × Handler)) (moves : List Move) (move : Move) :
    jobs entries (moves ++ [move]) = jobs entries moves ++ jobs entries [move] := by
  rw [jobs, List.flatMap_append]
  rfl

theorem Sound.step (h : m.Sound entries timeout moves) (move : Move) :
    (m.step move).Sound entries timeout (moves ++ [move]) := by
  -- no jobs come with a move that publishes nothing
  have hsame : ∀ {b : Bus}, jobs entries [move] = [] → Dispatched (jobs entries moves) b →
      Dispatched (jobs entries (moves ++ [move])) b := fun hjobs h => by
    rwa [jobs_concat, hjobs, List.append_nil]
  cases move with
  | publish e =>
    refine ⟨h.registered, h.timeout, fun t ht s hs => ?_, ?_⟩
    · rcases List.mem_append.1 ht with ht | ht
      · exact h.past t ht s hs
      · obtain ⟨_, -, rfl⟩ := List.mem_map.1 ht
        cases hs
    · have hjobs : jobs entries [.publish e] = jobsOf m.bus.registry.entries e := by
        rw [h.registered]
        exact List.append_nil _
      rw [jobs_concat, hjobs]
      exact h.dispatched.publish e
  | settle =>
    exact ⟨h.registered, h.timeout, past_settle h.past, hsame rfl (h.dispatched.settle _)⟩
  | advance nanos =>
    refine ⟨h.registered, h.timeout, fun t ht s hs => ?_, hsame rfl h.dispatched⟩
    exact (h.past t ht s hs).trans (Nat.le_add_right _ _)
  | wait =>
    -- waiting is running the tasks several times
    have hwait := wait_induction (P := fun b => b.registry.entries = entries ∧
      b.timeout = timeout ∧ Dispatched (jobs entries moves) b)
      (fun now _ h => ⟨h.1, h.2.1, h.2.2.settle now⟩) m.now ⟨h.registered, h.timeout, h.dispatched⟩
    refine ⟨hwait.1, hwait.2.1, fun t ht => ?_, hsame rfl hwait.2.2⟩
    rw [Moment.step, tasks_wait] at ht
    cases ht

theorem sound_start (entries : List (EventKind × Handler)) (timeout now : Nat) :
    (start entries timeout now).Sound entries timeout [] :=
  ⟨congrArg _ (Registry.ofList_eq entries), rfl, nofun, rfl, [], rfl, .nil, nofun⟩

theorem sound_after (entries : List (EventKind × Handler)) (timeout now : Nat)
    (moves : List Move) :
    ((start entries timeout now).after moves).Sound entries timeout moves := by
  induction moves using List.reverseRecOn with
  | nil => exact sound_start entries timeout now
  | append_singleton moves move ih =>
    rw [after_concat]
    exact ih.step move

end Moment
end Bus
end SessionAuth
