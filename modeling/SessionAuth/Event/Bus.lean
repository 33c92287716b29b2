import SessionAuth.Event.Registry

/-!
# The bus

Whoever changes something publishes an event on the bus and goes on at once; each handler of the
event becomes a task of its own.  A task runs for as long as its handler takes, but no longer than
the timeout, and ends without regard to the other tasks.  `Bus.wait` lets time pass until no task is
left.

Times are nanoseconds on a clock that never goes back.
-/

set_option autoImplicit false

namespace SessionAuth

/-- How a task ends. -/
inductive Ending where
  | finished
  /-- The handler answered with an error. -/
  | failed
  /-- The handler broke down. -/
  | crashed
  /-- The timeout was over before the handler was done. -/
  | cutOff
  deriving DecidableEq, Repr

/-- A handler, as the bus sees it. -/
structure Handler where
  name : String
  /-- How long the handler takes for an event. -/
  duration : Event → Nat
  /-- How the handler ends if it is given the time. -/
  ending : Event → Ending

/-- A handler at work on an event. -/
structure Task where
  handler : Handler
  event : Event
  /-- When the task began to run, if it has. -/
  begun : Option Nat

/-- What the bus did. -/
inductive Report where
  | began (handler : String) (event : Event)
  | ended (handler : String) (event : Event) (ending : Ending)
  deriving DecidableEq

/-- Handlers, and their tasks that are in flight. -/
structure Bus where
  registry : Registry Handler
  timeout : Nat
  tasks : List Task
  /-- What the bus did so far, the oldest first. -/
  reports : List Report

namespace Task

/-- The time by which a task that began has ended. -/
def limit (timeout : Nat) (t : Task) (begun : Nat) : Nat :=
  min (begun + t.handler.duration t.event) (begun + timeout)

/-- How a task has ended by now, if it has.  A handler that is done in the end counts as done, also
if the timeout was over in the meantime. -/
def ending? (timeout now : Nat) (t : Task) (begun : Nat) : Option Ending :=
  if begun + t.handler.duration t.event ≤ now then some (t.handler.ending t.event)
  else if begun + timeout ≤ now then some .cutOff
  else none

/-- Lets a task run until it has ended or waits: what is reported, and the task if it is left. -/
def settle (timeout now : Nat) (t : Task) : List Report × Option Task :=
  let begun := t.begun.getD now
  let news : List Report := if t.begun.isNone then [.began t.handler.name t.event] else []
  match t.ending? timeout now begun with
  | some ending => (news ++ [.ended t.handler.name t.event ending], none)
  | none => (news, some { t with begun := some begun })

end Task

namespace Bus

/-- A bus without tasks. -/
def start (registry : Registry Handler) (timeout : Nat) : Bus := ⟨registry, timeout, [], []⟩

/-- The number of tasks in flight. -/
def inFlight (b : Bus) : Nat := b.tasks.length

/-- Publishes an event; the answer is the number of its tasks. -/
def publish (b : Bus) (e : Event) : Nat × Bus :=
  let tasks := (b.registry.handlers e.kind).map fun h => ⟨h, e, none⟩
  (tasks.length, { b with tasks := b.tasks ++ tasks })

/-- Lets all tasks run until they have ended or wait. -/
def settle (b : Bus) (now : Nat) : Bus :=
  let settled := b.tasks.map (Task.settle b.timeout now)
  { b with
    tasks := settled.filterMap (·.2)
    reports := b.reports ++ settled.flatMap (·.1) }

/-- The next time at which a task ends. -/
def nextTime? (b : Bus) : Option Nat :=
  (b.tasks.filterMap fun t => t.begun.map (t.limit b.timeout)).min?

/-- Lets time pass from one end of a task to the next, at most the given number of times. -/
def waitSteps : Nat → Nat → Bus → Nat × Bus
  | 0, now, b => (now, b)
  | n + 1, now, b =>
    match b.nextTime? with
    | some next => waitSteps n (max now next) (b.settle (max now next))
    | none => (now, b)

/-- Lets time pass until no task is left; the answer is the time then. -/
def wait (b : Bus) (now : Nat) : Nat × Bus :=
  let b := b.settle now
  waitSteps b.tasks.length now b

/-- How often a handler began. -/
def begunCount (b : Bus) (handler : String) : Nat :=
  b.reports.countP fun
    | .began h _ => h == handler
    | _ => false

/-- How often a handler finished. -/
def finishedCount (b : Bus) (handler : String) : Nat :=
  b.reports.countP fun
    | .ended h _ .finished => h == handler
    | _ => false

end Bus
end SessionAuth
