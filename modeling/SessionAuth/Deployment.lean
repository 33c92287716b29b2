import SessionAuth.Authorization.Invalidation
import SessionAuth.Cache.Memory
import SessionAuth.Time.Clock
import SessionAuth.UseCase.Setup

/-!
# A deployment in memory

A `Deployment` holds all that a single process needs: a clock, the session store, the repositories
and the cache.  It answers the questions of programs one after the other.  An event that is
published becomes a task for each of its handlers; tasks wait until `Deployment.settle` runs them.

Session store, repository of users and cache can be out of reach.
-/

set_option autoImplicit false

namespace SessionAuth

/-- The state of a process. -/
structure Deployment where
  clock : Clock
  sessions : SessionStore
  users : UserTable
  grants : GrantTable
  cache : MemoryCache
  /-- The number of ids that were given out for sessions and tokens. -/
  idCount : Nat
  /-- The number of salts that were given out. -/
  saltCount : Nat
  sessionsReachable : Bool
  usersReachable : Bool
  cacheCondition : CacheCondition
  /-- Handlers that have not run yet, with their events. -/
  tasks : List (Invalidator × Event)

namespace Deployment

/-- A process that starts at the given time with nobody in it. -/
def start (wall : Timestamp) (nextUser : UserId) : Deployment where
  clock := .start wall
  sessions := .empty
  users := .empty nextUser
  grants := .empty
  cache := .empty
  idCount := 0
  saltCount := 0
  sessionsReachable := true
  usersReachable := true
  cacheCondition := .well
  tasks := []

/-- The number with at least four digits. -/
def fourDigits (n : Nat) : String :=
  let digits := Text.writeNat n
  String.ofList (List.replicate (4 - digits.length) '0') ++ digits

/-- The id that is given out after a number of others. -/
def idAfter (count : Nat) : String := "id-" ++ fourDigits (count + 1)

/-- The salt that is given out after a number of others. -/
def saltAfter (count : Nat) : List UInt8 := Crypto.bigEndian 16 count

/-- The answer to a question, and the process after it. -/
def answer : Program.Server Environment.interface Deployment
  | .now, d => (d.clock.wall, d)
  | .newId, d => (idAfter d.idCount, { d with idCount := d.idCount + 1 })
  | .newSalt, d => (saltAfter d.saltCount, { d with saltCount := d.saltCount + 1 })
  | .sessions c, d =>
    if d.sessionsReachable then
      let (result, sessions) := SessionStore.answer d.clock.elapsed c d.sessions
      (result, { d with sessions := sessions })
    else (.error (.unreachable .sessions), d)
  | .users c, d =>
    if d.usersReachable then
      let (result, users) := UserTable.answer d.clock.wall c d.users
      (result, { d with users := users })
    else (.error (.unreachable .users), d)
  | .grants c, d =>
    let (result, grants) := GrantTable.answer c d.grants
    (result, { d with grants := grants })
  | .cache c, d =>
    let (result, cache) :=
      d.cacheCondition.impair (MemoryCache.answer d.clock.elapsed) c d.cache
    (result, { d with cache := cache })
  | .publish e, d =>
    let handlers := Invalidator.registry.handlers e.kind
    (handlers.length, { d with tasks := d.tasks ++ handlers.map fun h => (h, e) })
  | .databaseHealth, d => (none, d)

/-- Runs a use case. -/
def run {α : Type} (p : UseCase α) (d : Deployment) : Except Error α × Deployment :=
  p.runOn answer d

/-- Runs one task; its failure has no effect. -/
def runTask (d : Deployment) (task : Invalidator × Event) : Deployment :=
  (d.run (task.1.handle task.2)).2

/-- Runs all tasks.  Handlers publish no events, so that none is left. -/
def settle (d : Deployment) : Deployment :=
  d.tasks.foldl runTask { d with tasks := [] }

/-- Lets time pass. -/
def advance (millis : Nat) (d : Deployment) : Deployment :=
  { d with clock := d.clock.advance millis }

end Deployment
end SessionAuth
