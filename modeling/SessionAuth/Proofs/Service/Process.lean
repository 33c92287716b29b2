import SessionAuth.Deployment
import SessionAuth.Proofs.Program.Triple
import SessionAuth.Proofs.Session.Timeline

/-!
# A process and what it answers

`Deployment.answer` counts the ids and salts that it gives out.  For what is proved of a process it
does not matter which ids and salts these are, so that `Deployment.serve` takes them from any
`Supply`; `serve_counting` says that the counted ones are a supply among others.

A process whose backends are in reach (`InReach`) answers as they do, and no question changes what
is in reach or the time (`serve_frame`).
-/

set_option autoImplicit false

namespace SessionAuth

open Environment

/-- Where the ids and salts come from that a process gives out, by the number of those before. -/
structure Supply where
  ids : Nat → String
  salts : Nat → List UInt8

namespace Supply

/-- The ids that were given out, the last one first. -/
def given (f : Supply) (count : Nat) : List String := ((List.range count).map f.ids).reverse

theorem given_succ (f : Supply) (count : Nat) :
    f.given (count + 1) = f.ids count :: f.given count := by
  simp [given, List.range_succ]

theorem mem_given {f : Supply} {count : Nat} {id : String} :
    id ∈ f.given count ↔ ∃ n < count, f.ids n = id := by
  simp [given]

theorem given_mono (f : Supply) {m n : Nat} (h : m ≤ n) : f.given m ⊆ f.given n := by
  intro id hid
  obtain ⟨k, hk, rfl⟩ := mem_given.1 hid
  exact mem_given.2 ⟨k, Nat.lt_of_lt_of_le hk h, rfl⟩

/-- A supply that repeats no id gives out a new one each time. -/
theorem not_mem_given {f : Supply} (hf : Function.Injective f.ids) (count : Nat) :
    f.ids count ∉ f.given count := by
  rw [mem_given]
  rintro ⟨n, hn, heq⟩
  exact absurd (hf heq) (Nat.ne_of_lt hn)

end Supply

namespace Deployment

/-- The answer to a question and the process after it, with ids and salts from a supply. -/
def serve (f : Supply) : Program.Server Environment.interface Deployment
  | .newId, d => (f.ids d.idCount, { d with idCount := d.idCount + 1 })
  | .newSalt, d => (f.salts d.saltCount, { d with saltCount := d.saltCount + 1 })
  | .now, d => answer .now d
  | .sessions q, d => answer (.sessions q) d
  | .users c, d => answer (.users c) d
  | .grants c, d => answer (.grants c) d
  | .cache c, d => answer (.cache c) d
  | .publish e, d => answer (.publish e) d
  | .databaseHealth, d => answer .databaseHealth d

/-- The supply of ids and salts that are counted. -/
def counting : Supply := ⟨idAfter, saltAfter⟩

theorem serve_counting : serve counting = answer := by
  funext q d
  cases q <;> rfl

variable {f : Supply} {d : Deployment}

/-- A supply that repeats no id gives out one that is new, and it is the last one that was given
out then. -/
theorem serve_newId (hf : Function.Injective f.ids) (d : Deployment) :
    (serve f .newId d).1 ∉ f.given d.idCount ∧
      f.given (serve f .newId d).2.idCount = (serve f .newId d).1 :: f.given d.idCount :=
  ⟨Supply.not_mem_given hf d.idCount, f.given_succ d.idCount⟩

/-! ## Backends in reach -/

/-- Whether nothing is out of reach. -/
structure InReach (d : Deployment) : Prop where
  sessions : d.sessionsReachable = true
  users : d.usersReachable = true
  cache : d.cacheCondition ≠ .unreachable

/-- A session store that is in reach answers, whatever else is out of reach. -/
theorem serve_sessions (h : d.sessionsReachable) (q : SessionStore.Question) :
    serve f (.sessions q) d = ((SessionStore.answer d.clock.elapsed q d.sessions).1,
      { d with sessions := (SessionStore.answer d.clock.elapsed q d.sessions).2 }) := by
  simp [serve, answer, h]

theorem serve_sessions_of_unreachable (h : ¬ d.sessionsReachable) (q : SessionStore.Question) :
    serve f (.sessions q) d = (.error (.unreachable .sessions), d) := by
  simp [serve, answer, h]

theorem InReach.serve_sessions (h : d.InReach) (q : SessionStore.Question) :
    serve f (.sessions q) d = ((SessionStore.answer d.clock.elapsed q d.sessions).1,
      { d with sessions := (SessionStore.answer d.clock.elapsed q d.sessions).2 }) :=
  Deployment.serve_sessions h.sessions q

theorem InReach.serve_users (h : d.InReach) (c : UserRepository.Call) :
    serve f (.users c) d = ((UserTable.answer d.clock.wall c d.users).1,
      { d with users := (UserTable.answer d.clock.wall c d.users).2 }) := by
  simp [serve, answer, h.users]

/-- A cache that is in reach answers everything but the question whether it is well. -/
theorem serve_cache (h : d.cacheCondition ≠ .unreachable) {c : Cache.Call} (hc : c ≠ .isHealthy) :
    serve f (.cache c) d = ((MemoryCache.answer d.clock.elapsed c d.cache).1,
      { d with cache := (MemoryCache.answer d.clock.elapsed c d.cache).2 }) := by
  simp only [serve, answer, CacheCondition.impair]
  cases hcondition : d.cacheCondition with
  | well => rfl
  | unreachable => exact absurd hcondition h
  | unwell =>
    cases c with
    | isHealthy => exact absurd rfl hc
    | _ => rfl

theorem InReach.serve_cache (h : d.InReach) {c : Cache.Call} (hc : c ≠ .isHealthy) :
    serve f (.cache c) d = ((MemoryCache.answer d.clock.elapsed c d.cache).1,
      { d with cache := (MemoryCache.answer d.clock.elapsed c d.cache).2 }) :=
  Deployment.serve_cache h.cache hc

/-- A question changes the condition of nothing, nor the time. -/
theorem serve_frame (q : Question) (d : Deployment) :
    (serve f q d).2.clock = d.clock ∧ (serve f q d).2.sessionsReachable = d.sessionsReachable ∧
      (serve f q d).2.usersReachable = d.usersReachable ∧
      (serve f q d).2.cacheCondition = d.cacheCondition := by
  cases q
  case sessions q =>
    simp only [serve, answer]
    split <;> exact ⟨rfl, rfl, rfl, rfl⟩
  case users c =>
    simp only [serve, answer]
    split <;> exact ⟨rfl, rfl, rfl, rfl⟩
  all_goals exact ⟨rfl, rfl, rfl, rfl⟩

@[simp] theorem clock_serve (q : Question) (d : Deployment) : (serve f q d).2.clock = d.clock :=
  (serve_frame q d).1

theorem InReach.serve (h : d.InReach) (q : Question) : (Deployment.serve f q d).2.InReach := by
  obtain ⟨-, hsessions, husers, hcache⟩ := serve_frame (f := f) q d
  exact ⟨hsessions.trans h.sessions, husers.trans h.users, hcache ▸ h.cache⟩

/-- No program changes the time. -/
theorem clock_run {α : Type} (p : UseCase α) (d : Deployment) :
    (p.runOn (serve f) d).2.clock = d.clock :=
  (Fallible.Preserves.of_all (fun q s hs => (clock_serve q s).trans hs) p).run d rfl

end Deployment

/-! ## Samples -/

namespace Sample

/-- A setup for runs on given inputs, with a quarter of an hour for access tokens and a day for
refresh tokens and sessions. -/
def setup : Setup where
  codec := { secret := [], leeway := 0, accessTtl := 900, refreshTtl := 86400 }
  passwordMinLength := 12
  sessionTtl := 86400
  cacheTtls := ⟨60, 60⟩

/-- An active account, with an email and a password that nobody has. -/
def account (id : UserId) (role : Role) : User where
  id := id
  email := ""
  passwordHash := ""
  role := role
  status := .active
  createdAt := .ofSeconds 0
  updatedAt := .ofSeconds 0

end Sample
end SessionAuth
