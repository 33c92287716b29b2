import SessionAuth.Proofs.Event.Dispatch

/-!
# Handlers do not get in each other's way

What a bus reports about some of its handlers is what it would report if only these were registered
(`Moment.only_after`): the others may be slow, fail, break down or not be there at all.  This is not
because the runs are the same.  Waiting takes as long as the slowest task, so that with more
handlers the tasks of later events begin later, and while somebody waits, tasks get to run when
those of other handlers end.  But a task that gets to run before its end does nothing
(`AtWork.only_waitSteps`), and a run that begins later goes the same way (`Moment.resume_after`).

`Bus.dispatch_exact` puts this together with what is reported at all.
-/

set_option autoImplicit false

namespace SessionAuth

/-- The handler that a report is about. -/
def Report.handler : Report → String
  | began handler _ => handler
  | ended handler _ _ => handler

theorem Task.handler_settle {timeout now : Nat} {t : Task} {r : Report}
    (h : r ∈ (t.settle timeout now).1) : r.handler = t.handler.name := by
  rw [Task.reports_settle] at h
  rcases List.mem_append.1 h with h | h
  · split at h
    · rw [List.mem_singleton.1 h]; rfl
    · cases h
  · split at h
    · rw [List.mem_singleton.1 h]; rfl
    · cases h

/-- A task that began later. -/
def Task.later (nanos : Nat) (t : Task) : Task := { t with begun := t.begun.map (· + nanos) }

@[simp] theorem Task.later_zero (t : Task) : t.later 0 = t := by
  simp [later]

theorem Task.later_later (nanos more : Nat) (t : Task) :
    (t.later nanos).later more = t.later (nanos + more) := by
  simp [later, Function.comp_def, Nat.add_assoc]

theorem Task.limit_later (nanos timeout : Nat) (t : Task) (begun : Nat) :
    (t.later nanos).limit timeout (begun + nanos) = t.limit timeout begun + nanos := by
  simp only [limit, later]
  omega

/-- A task that began later goes the same way later. -/
theorem Task.settle_later (nanos timeout now : Nat) (t : Task) :
    (t.later nanos).settle timeout (now + nanos) =
      ((t.settle timeout now).1, (t.settle timeout now).2.map (later nanos)) := by
  have hending : ∀ begun, (t.later nanos).ending? timeout (now + nanos) (begun + nanos) =
      t.ending? timeout now begun := by
    intro begun
    simp only [ending?, later, Nat.add_right_comm begun nanos, Nat.add_le_add_iff_right]
  have hbegun : (t.later nanos).begun.getD (now + nanos) = t.begun.getD now + nanos := by
    cases h : t.begun <;> simp [later, h]
  rw [settle, settle, hbegun, hending]
  cases h : t.ending? timeout now (t.begun.getD now) <;> simp [later]

namespace Bus

/-! ## A part of the handlers -/

/-- The part of a bus that concerns some of the handlers. -/
def only (keep : String → Bool) (b : Bus) : Bus where
  registry := ⟨b.registry.entries.filter fun entry => keep entry.2.name⟩
  timeout := b.timeout
  tasks := b.tasks.filter fun t => keep t.handler.name
  reports := b.reports.filter fun r => keep r.handler

section Only

variable (keep : String → Bool) {b : Bus} {now : Nat}

theorem only_publish (b : Bus) (e : Event) :
    (b.publish e).2.only keep = ((b.only keep).publish e).2 := by
  have hhandlers : (b.only keep).registry.handlers e.kind =
      (b.registry.handlers e.kind).filter fun h => keep h.name := by
    rw [Registry.handlers, Registry.handlers, List.filter_map, only, List.filter_filter,
      List.filter_filter]
    simp [Bool.and_comm]
  simp only [publish, hhandlers]
  simp [only, List.filter_append, List.filter_map, Function.comp_def]

theorem only_settle (b : Bus) (now : Nat) :
    (b.settle now).only keep = (b.only keep).settle now := by
  have hnews : ∀ t : Task, (t.settle b.timeout now).1.filter (fun r => keep r.handler) =
      if keep t.handler.name then (t.settle b.timeout now).1 else [] := by
    intro t
    cases hkeep : keep t.handler.name with
    | true => exact List.filter_eq_self.2 fun r hr => by rw [Task.handler_settle hr, hkeep]
    | false => exact List.filter_eq_nil_iff.2 fun r hr => by simp [Task.handler_settle hr, hkeep]
  have hleft : ∀ t t' : Task, (t.settle b.timeout now).2 = some t' →
      t'.handler.name = t.handler.name := by
    intro t t' h
    obtain ⟨rfl, -⟩ := Task.settle_eq_some_iff.1 h
    rfl
  have htasks : ∀ ts : List Task,
      ((ts.map (Task.settle b.timeout now)).filterMap (·.2)).filter (fun t => keep t.handler.name) =
        ((ts.filter fun t => keep t.handler.name).map (Task.settle b.timeout now)).filterMap
          (·.2) := by
    intro ts
    induction ts with
    | nil => rfl
    | cons t ts ih =>
      rw [List.map_cons, List.filterMap_cons, List.filter_cons]
      cases hkeep : keep t.handler.name <;> cases hsettle : (t.settle b.timeout now).2 with
      | none => simp only [ih, hsettle, List.map_cons, List.filterMap_cons, if_true, if_false,
          Bool.false_eq_true]
      | some t' => simp only [ih, hsettle, hleft t t' hsettle, hkeep, List.filter_cons,
          List.map_cons, List.filterMap_cons, if_true, if_false, Bool.false_eq_true]
  have hreports : ∀ ts : List Task,
      ((ts.map (Task.settle b.timeout now)).flatMap (·.1)).filter (fun r => keep r.handler) =
        ((ts.filter fun t => keep t.handler.name).map (Task.settle b.timeout now)).flatMap
          (·.1) := by
    intro ts
    induction ts with
    | nil => rfl
    | cons t ts ih =>
      rw [List.map_cons, List.flatMap_cons, List.filter_append, hnews, ih, List.filter_cons]
      cases keep t.handler.name <;> rfl
  simp only [only, settle, List.filter_append, htasks, hreports]

theorem AtWork.only (h : b.AtWork now) : (b.only keep).AtWork now :=
  fun t ht => h t (List.mem_filter.1 ht).1

/-- Running tasks one end after the other is for some of the handlers as if the others were not
there. -/
theorem AtWork.only_waitSteps {n n' now' : Nat} (h : b.AtWork now) (hn : b.tasks.length ≤ n)
    (hn' : (b.only keep).tasks.length ≤ n') (hnow : now' ≤ now) :
    (waitSteps n now b).2.only keep = (waitSteps n' now' (b.only keep)).2 ∧
      (waitSteps n' now' (b.only keep)).1 ≤ (waitSteps n now b).1 := by
  have hidle : ∀ {b : Bus} {n now : Nat}, b.tasks = [] → waitSteps n now b = (now, b) := by
    intro b n now htasks
    cases n <;> simp [waitSteps, nextTime?, htasks]
  induction n generalizing n' now now' b with
  | zero =>
    have htasks := List.eq_nil_of_length_eq_zero (Nat.le_zero.1 hn)
    have honly : (b.only keep).tasks = [] := by rw [Bus.only, htasks, List.filter_nil]
    rw [hidle htasks, hidle honly]
    exact ⟨rfl, hnow⟩
  | succ n ih =>
    cases hnext : b.nextTime? with
    | none =>
      have htasks := h.tasks_eq_nil hnext
      have honly : (b.only keep).tasks = [] := by rw [Bus.only, htasks, List.filter_nil]
      rw [hidle htasks, hidle honly]
      exact ⟨rfl, hnow⟩
    | some next =>
      obtain ⟨hlt, hleast, t, ht, s, hs, hlimit⟩ := h.nextTime hnext
      have hfewer := length_settle_lt ht hs hlimit.le
      rw [waitSteps, hnext]
      dsimp only
      rw [max_eq_right hlt.le]
      have hwork : (b.only keep).AtWork now' := (h.only keep).mono hnow
      by_cases hdue : (b.only keep).AtWork next
      · -- none of these handlers is due, so that the step passes them by
        have hsame : (b.settle next).only keep = b.only keep :=
          (only_settle keep b next).trans hdue.settle_eq
        have hlength : ((b.settle next).only keep).tasks.length ≤ n' := hsame ▸ hn'
        have hrest := ih (atWork_settle b next) (by omega) hlength (hnow.trans hlt.le)
        rwa [hsame] at hrest
      · -- one of them is due, and then it is next also without the others
        cases honly : (b.only keep).nextTime? with
        | none =>
          refine absurd (fun t ht => ?_) hdue
          rw [hwork.tasks_eq_nil honly] at ht
          cases ht
        | some next' =>
          obtain ⟨hlt', hleast', t', ht', s', hs', hlimit'⟩ := hwork.nextTime honly
          have hle : next ≤ next' := hlimit' ▸ hleast t' (List.mem_filter.1 ht').1 s' hs'
          have hge : next' ≤ next := by
            by_contra hgt
            refine hdue fun t ht => ?_
            obtain ⟨s, hs, -⟩ := hwork t ht
            exact ⟨s, hs, (not_le.1 hgt).trans_le (hleast' t ht s hs)⟩
          obtain rfl := hle.antisymm hge
          have hfewer' := length_settle_lt ht' hs' hlimit'.le
          cases n' with
          | zero => omega
          | succ n' =>
            rw [waitSteps, honly]
            dsimp only
            rw [max_eq_right hlt'.le, ← only_settle]
            exact ih (atWork_settle b next) (by omega) (by rw [only_settle]; omega) (le_refl _)

theorem only_wait (b : Bus) (now : Nat) :
    (b.wait now).2.only keep = ((b.only keep).wait now).2 ∧
      ((b.only keep).wait now).1 ≤ (b.wait now).1 := by
  simp only [wait]
  rw [← only_settle]
  exact (atWork_settle b now).only_waitSteps keep (le_refl _) (le_refl _) (le_refl _)

end Only

/-! ## Runs that begin later -/

/-- A bus that was started later, after other reports. -/
def resume (nanos : Nat) (past : List Report) (b : Bus) : Bus :=
  { b with tasks := b.tasks.map (Task.later nanos), reports := past ++ b.reports }

section Resume

variable (nanos : Nat) (past : List Report) (b : Bus)

theorem resume_publish (e : Event) :
    ((b.resume nanos past).publish e).2 = (b.publish e).2.resume nanos past := by
  simp [publish, resume, Task.later, Function.comp_def]

theorem resume_settle (now : Nat) :
    (b.resume nanos past).settle (now + nanos) = (b.settle now).resume nanos past := by
  have hsettled : (b.tasks.map (Task.later nanos)).map (Task.settle b.timeout (now + nanos)) =
      (b.tasks.map (Task.settle b.timeout now)).map fun x => (x.1, x.2.map (Task.later nanos)) := by
    simp only [List.map_map, Function.comp_def, Task.settle_later]
  simp only [settle, resume, hsettled, List.filterMap_map, List.flatMap_map, List.map_filterMap,
    Function.comp_def, List.append_assoc]

theorem resume_nextTime? :
    (b.resume nanos past).nextTime? = b.nextTime?.map (· + nanos) := by
  have htimes : ((b.resume nanos past).tasks.filterMap fun t =>
      t.begun.map (t.limit b.timeout)) =
        (b.tasks.filterMap fun t => t.begun.map (t.limit b.timeout)).map (· + nanos) := by
    simp only [resume, List.filterMap_map, List.map_filterMap]
    refine congrArg (List.filterMap · b.tasks) (funext fun t => ?_)
    cases h : t.begun with
    | none => simp [Task.later, h]
    | some s => simpa [Task.later, h] using Task.limit_later nanos b.timeout t s
  show List.min? _ = _
  rw [nextTime?, show (b.resume nanos past).timeout = b.timeout from rfl, htimes]
  cases hmin : (b.tasks.filterMap fun t => t.begun.map (t.limit b.timeout)).min? with
  | none => rw [List.min?_eq_none_iff.1 hmin]; rfl
  | some next =>
    obtain ⟨hmem, hleast⟩ := List.min?_eq_some_iff.1 hmin
    refine List.min?_eq_some_iff.2 ⟨List.mem_map_of_mem hmem, fun later hlater => ?_⟩
    obtain ⟨time, htime, rfl⟩ := List.mem_map.1 hlater
    exact Nat.add_le_add_right (hleast time htime) nanos

theorem resume_waitSteps (n now : Nat) :
    waitSteps n (now + nanos) (b.resume nanos past) =
      ((waitSteps n now b).1 + nanos, (waitSteps n now b).2.resume nanos past) := by
  induction n generalizing now b with
  | zero => rfl
  | succ n ih =>
    rw [waitSteps, waitSteps, resume_nextTime?]
    cases b.nextTime? with
    | none => rfl
    | some next =>
      dsimp only [Option.map_some]
      rw [Nat.add_max_add_right, resume_settle, ih]

theorem resume_wait (now : Nat) :
    (b.resume nanos past).wait (now + nanos) =
      ((b.wait now).1 + nanos, (b.wait now).2.resume nanos past) := by
  simp only [wait]
  rw [resume_settle, resume_waitSteps]
  simp only [resume, List.length_map]

variable {b} in
/-- Where there are no tasks, it does not matter when the bus was started. -/
theorem resume_of_tasks_eq_nil (htasks : b.tasks = []) : b.resume nanos [] = b := by
  cases b
  simp_all [resume]

end Resume

namespace Moment

/-- The part of a run that concerns some of the handlers. -/
def only (keep : String → Bool) (m : Moment) : Moment := ⟨m.now, m.bus.only keep⟩

/-- A run that was started later, after other reports. -/
def resume (nanos : Nat) (past : List Report) (m : Moment) : Moment :=
  ⟨m.now + nanos, m.bus.resume nanos past⟩

theorem resume_step (nanos : Nat) (past : List Report) (m : Moment) (move : Move) :
    (m.resume nanos past).step move = (m.step move).resume nanos past := by
  cases move with
  | publish e => exact congrArg (Moment.mk _) (resume_publish nanos past m.bus e)
  | settle => exact congrArg (Moment.mk _) (resume_settle nanos past m.bus m.now)
  | advance more => exact congrArg (Moment.mk · _) (Nat.add_right_comm m.now nanos more)
  | wait => rw [step, resume, resume_wait]; rfl

/-- A run that is started later goes the same way. -/
theorem resume_after (nanos : Nat) (past : List Report) (m : Moment) (moves : List Move) :
    (m.resume nanos past).after moves = (m.after moves).resume nanos past := by
  induction moves using List.reverseRecOn with
  | nil => rfl
  | append_singleton moves move ih => rw [after_concat, ih, resume_step, after_concat]

theorem resume_resume (nanos more : Nat) (m : Moment) :
    (m.resume nanos []).resume more [] = m.resume (nanos + more) [] := by
  simp only [resume, Bus.resume, List.map_map, Function.comp_def, Task.later_later, Nat.add_assoc,
    List.nil_append]

@[simp] theorem resume_zero (m : Moment) : m.resume 0 [] = m := by
  have hlater : Task.later 0 = id := funext Task.later_zero
  simp [resume, Bus.resume, hlater]

/-- A bus without tasks differs from a new one only in the time and in what was reported. -/
theorem Sound.eq_resume_start {entries : List (EventKind × Handler)} {timeout : Nat}
    {moves : List Move} {m : Moment} (h : m.Sound entries timeout moves)
    (htasks : m.bus.tasks = []) :
    m = (start entries timeout 0).resume m.now m.bus.reports := by
  obtain ⟨now, ⟨⟨registered⟩, limit, tasks, reports⟩⟩ := m
  obtain rfl : tasks = [] := htasks
  obtain rfl : registered = entries := h.registered
  obtain rfl : limit = timeout := h.timeout
  simp [start, resume, Bus.resume, Bus.start, Registry.ofList_eq]

theorem only_start (keep : String → Bool) (entries : List (EventKind × Handler))
    (timeout now : Nat) : (start entries timeout now).only keep =
      start (entries.filter fun entry => keep entry.2.name) timeout now := by
  simp only [only, start, Bus.only, Bus.start, Registry.ofList_eq, List.filter_nil]

/-- A step is for some of the handlers as if the others were not there, but that somebody may wait
longer. -/
theorem only_step (keep : String → Bool) (m : Moment) (move : Move) :
    ∃ nanos, (m.step move).only keep = ((m.only keep).step move).resume nanos [] := by
  cases move with
  | publish e =>
    refine ⟨0, ?_⟩
    rw [resume_zero]
    exact congrArg (Moment.mk _) (only_publish keep m.bus e)
  | settle =>
    refine ⟨0, ?_⟩
    rw [resume_zero]
    exact congrArg (Moment.mk _) (only_settle keep m.bus m.now)
  | advance nanos =>
    refine ⟨0, ?_⟩
    rw [resume_zero]
    rfl
  | wait =>
    obtain ⟨hbus, hle⟩ := only_wait keep m.bus m.now
    obtain ⟨nanos, hnanos⟩ := Nat.exists_eq_add_of_le hle
    refine ⟨nanos, ?_⟩
    rw [step, only, resume, hnanos, hbus]
    exact congrArg (Moment.mk _) (resume_of_tasks_eq_nil nanos (tasks_wait _ _)).symm

/-- A run is for some of the handlers as if the others were not there. -/
theorem only_after (keep : String → Bool) (m : Moment) (moves : List Move) :
    ∃ nanos, (m.after moves).only keep = ((m.only keep).after moves).resume nanos [] := by
  induction moves using List.reverseRecOn with
  | nil => exact ⟨0, (resume_zero _).symm⟩
  | append_singleton moves move ih =>
    obtain ⟨nanos, ih⟩ := ih
    obtain ⟨more, hstep⟩ := only_step keep (m.after moves) move
    refine ⟨nanos + more, ?_⟩
    rw [after_concat, after_concat, hstep, ih, resume_step, resume_resume]

/-- What is reported about some of the handlers does not depend on the others. -/
theorem reports_only (keep : String → Bool) (entries : List (EventKind × Handler))
    (timeout now : Nat) (moves : List Move) :
    ((start entries timeout now).after moves).bus.reports.filter (fun r => keep r.handler) =
      ((start (entries.filter fun entry => keep entry.2.name) timeout now).after
        moves).bus.reports := by
  obtain ⟨nanos, h⟩ := only_after keep (start entries timeout now) moves
  rw [only_start] at h
  exact congrArg (·.bus.reports) h

end Moment

/-- **Every handler gets every event once.**  After any run of a bus:

* publishing an event brings as many tasks as there are registrations for its kind;
* of all the jobs that events brought, each begins once, in their order, and each is in flight or
  has ended once, as its handler says or at the timeout;
* when somebody has waited, which takes no longer than the timeout, no task is in flight, and all
  jobs have begun and ended;
* what is reported about some of the handlers is what would be reported if there were no others;
* after somebody has waited, the bus goes on like a new one. -/
theorem dispatch_exact (entries : List (EventKind × Handler)) (timeout start : Nat)
    (moves : List Move) :
    let m := (Moment.start entries timeout start).after moves
    let waited := m.step .wait
    (∀ e, (m.bus.publish e).1 = entries.countP fun entry => entry.1 == e.kind) ∧
      m.bus.Dispatched (jobs entries moves) ∧
      (waited.bus.inFlight = 0 ∧ m.now ≤ waited.now ∧ waited.now ≤ m.now + timeout ∧
        waited.bus.begun = (jobs entries moves).map Job.label ∧
        ∃ fates : List (Job × Ending), waited.bus.ended = fates.map (fun x => (x.1.label, x.2)) ∧
          (fates.map (·.1)).Perm (jobs entries moves) ∧ ∀ x ∈ fates, x.1.Ends timeout x.2) ∧
      (∀ keep : String → Bool, m.bus.reports.filter (fun r => keep r.handler) =
        ((Moment.start (entries.filter fun entry => keep entry.2.name) timeout start).after
          moves).bus.reports) ∧
      ∀ more, (waited.after more).bus.reports = waited.bus.reports ++
        ((Moment.start entries timeout 0).after more).bus.reports := by
  intro m waited
  have hsound : m.Sound entries timeout moves := Moment.sound_after entries timeout start moves
  have hwaited := hsound.step .wait
  have htasks : waited.bus.tasks = [] := tasks_wait m.bus m.now
  refine ⟨fun e => ?_, hsound.dispatched, ⟨?_, ?_⟩, fun keep => ?_, fun more => ?_⟩
  · simp [publish, Registry.handlers, hsound.registered, List.countP_eq_length_filter]
  · rw [inFlight, htasks, List.length_nil]
  · have hle := wait_le hsound.past
    rw [hsound.timeout] at hle
    have hjobs : jobs entries (moves ++ [.wait]) = jobs entries moves := by
      rw [Moment.jobs_concat]
      exact List.append_nil _
    have hall := hwaited.dispatched.of_tasks_eq_nil htasks
    rw [hjobs, hwaited.timeout] at hall
    exact ⟨hle.1, hle.2, hall⟩
  · exact Moment.reports_only keep entries timeout start moves
  · have hnew := congrArg (Moment.after · more) (hwaited.eq_resume_start htasks)
    rw [Moment.resume_after] at hnew
    exact congrArg (·.bus.reports) hnew

/-- One handler breaks down, and another one is too slow, which is no matter to the third. -/
example :
    let broken : Handler := ⟨"broken", fun _ => 0, fun _ => .crashed⟩
    let slow : Handler := ⟨"slow", fun _ => 9, fun _ => .finished⟩
    let quick : Handler := ⟨"quick", fun _ => 2, fun _ => .finished⟩
    let e : Event := .roleChanged "client"
    ((Moment.start [(e.kind, broken), (e.kind, slow), (e.kind, quick)] 5 0).after
      [.publish e, .wait]).bus.ended = [(("broken", e), .crashed), (("quick", e), .finished),
        (("slow", e), .cutOff)] := by
  decide

end Bus
end SessionAuth
