import SessionAuth.Cache.Basic
import SessionAuth.Collection.Expiring
import SessionAuth.Collection.Table
import SessionAuth.Settings.Basic

/-!
# The cache in memory

`MemoryCache` is a cache in which nothing is lost before its time.  Its answers depend on its
condition: a cache may be out of reach, or answer and report that it is unwell.
-/

set_option autoImplicit false

namespace SessionAuth

/-- A cache in memory. -/
structure MemoryCache where
  entries : Table String (Expiring String)

namespace MemoryCache

def empty : MemoryCache := ⟨.empty⟩

/-- The text that is kept under a key. -/
def get? (c : MemoryCache) (now : Nat) (key : String) : Option String :=
  Expiring.live? now (c.entries.get? key)

/-- The answer to a call at a time, and the cache after it. -/
def answer (now : Nat) : Program.Server Cache.interface MemoryCache
  | .get key, c => (.ok (c.get? now key), c)
  | .set key text nanos, c => (.ok (), ⟨c.entries.set key ⟨text, now + nanos⟩⟩)
  | .delete key, c => (.ok (), ⟨c.entries.erase key⟩)
  | .has key, c => (.ok (c.get? now key).isSome, c)
  | .isHealthy, c => (.ok true, c)

/-- The cache that the settings ask for, where no Redis server is available. -/
def ofSettings (s : CacheSettings) : Except Error MemoryCache :=
  if s.provider = "memory" then .ok empty
  else if s.provider = "redis" then .error (.config .noRedisClient)
  else .error (.config (.unknownCacheProvider s.provider))

end MemoryCache

/-- Whether a cache is in reach and well. -/
inductive CacheCondition where
  | well
  /-- Answers, but reports that it is unwell. -/
  | unwell
  | unreachable
  deriving DecidableEq, Repr

/-- The answers of a cache in a condition. -/
def CacheCondition.impair {σ : Type} (condition : CacheCondition)
    (answer : Program.Server Cache.interface σ) : Program.Server Cache.interface σ :=
  fun c s => match condition with
    | .unreachable => (.error (.unreachable .cache), s)
    | .unwell => match c with
      | .isHealthy => (.ok false, s)
      | c => answer c s
    | .well => answer c s

end SessionAuth
