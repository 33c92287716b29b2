import SessionAuth.Proofs.Authorization.LateFill
import SessionAuth.Proofs.Service.Run
import SessionAuth.Proofs.Service.Transparency

/-!
# The parts of a process

What is shown of `Parts` holds of processes with any cache.  A `Deployment` whose cache is in reach
is one of them: its cache is the one in memory, together with the time.  It answers as its parts do
(`Deployment.answer_parts`), a use case has the same result in both (`Deployment.runOn_parts`), and
requests side by side may be answered by it (`Authorization.responds_serve`).

What follows for the service is that all entries of its cache are up to date, of users and of roles
(`Service.reachable_upToDate`), and that no operation shows them (`Service.perform_uncached`).
-/

set_option autoImplicit false

namespace SessionAuth

open Environment Fallible

/-! ## A cache at a time -/

/-- A cache in memory that is in reach, and the time. -/
structure TimedCache where
  cache : MemoryCache
  now : Nat
  isWell : Bool

namespace TimedCache

/-- The answer to a call, and the cache after it. -/
def answer : Program.Server Cache.interface TimedCache
  | .isHealthy, c => (.ok c.isWell, c)
  | call, c => ((MemoryCache.answer c.now call c.cache).1,
      { c with cache := (MemoryCache.answer c.now call c.cache).2 })

/-- Whether a text is kept under a key, be it for how long it may. -/
def Holds (c : TimedCache) (key text : String) : Prop := c.cache.Holds key text

theorem unreliable_answer : Unreliable answer Holds where
  get h := (MemoryCache.unreliable_answer _).get h
  kept := by
    intro c call key text h
    cases call with
    | isHealthy => exact .inl h
    | _ => exact (MemoryCache.unreliable_answer c.now).kept h
  deleted {c} := (MemoryCache.unreliable_answer c.now).deleted

end TimedCache

/-! ## Processes and their parts -/

/-- How the parts of a process answer, with ids and salts from a supply. -/
def Supply.surroundings (f : Supply) : Surroundings TimedCache Deployment where
  cache := TimedCache.answer
  rest := Deployment.serve f
  wall d := d.clock.wall

namespace Deployment

/-- The parts of a process.  Repositories and cache are left out of the rest. -/
def parts (d : Deployment) : Parts TimedCache Deployment where
  users := d.users
  grants := d.grants
  cache := ⟨d.cache, d.clock.elapsed, d.cacheCondition = .well⟩
  rest := { d with users := .empty ⟨0⟩, grants := .empty, cache := .empty }

variable {f : Supply} {d : Deployment}

/-- The parts of a process answer as the process does, unless it is the repository of users that is
asked while it is out of reach. -/
theorem answer_parts (hcache : d.cacheCondition ≠ .unreachable) {q : Question}
    (hq : d.usersReachable = true ∨ ∀ c, q ≠ .users c) :
    f.surroundings.answer q d.parts = ((serve f q d).1, (serve f q d).2.parts) := by
  cases q with
  | users c =>
    have husers := hq.resolve_right fun h => h c rfl
    simp only [serve, answer, if_pos husers]
    rfl
  | sessions q =>
    simp only [Surroundings.answer, Supply.surroundings, parts, serve, answer]
    split <;> rfl
  | cache c =>
    simp only [serve, answer, CacheCondition.impair]
    cases hcondition : d.cacheCondition with
    | unreachable => exact absurd hcondition hcache
    | well | unwell =>
      cases c <;> simp [Surroundings.answer, Supply.surroundings, TimedCache.answer, parts,
        MemoryCache.answer, hcondition]
  | _ => rfl

/-- A use case comes to the same result in a process and in its parts. -/
theorem runOn_parts (h : d.InReach) {α : Type} (p : UseCase α) :
    p.runOn f.surroundings.answer d.parts =
      ((p.runOn (Deployment.serve f) d).1, (p.runOn (Deployment.serve f) d).2.parts) :=
  Program.run_view InReach (fun _ _ hd => answer_parts hd.cache (.inl hd.users))
    (fun q _ hd => hd.serve q) p.run h

end Deployment

/-- What a process answers to a request is what its parts may answer, with anything out of reach but
the cache. -/
theorem Authorization.responds_serve {s : Setup} {f : Supply} {d : Deployment}
    (hcache : d.cacheCondition ≠ .unreachable) (q : Question) :
    (system s f.surroundings TimedCache.Holds).Responds d.parts
      ⟨q, (Deployment.serve f q d).1⟩ (Deployment.serve f q d).2.parts := by
  by_cases hq : d.usersReachable = true ∨ ∀ c, q ≠ .users c
  · have hanswer := Deployment.answer_parts (f := f) hcache hq
    exact .inl ⟨(congrArg Prod.fst hanswer).symm, (congrArg Prod.snd hanswer).symm⟩
  · rw [not_or] at hq
    obtain ⟨husers, hcall⟩ := hq
    obtain ⟨c, rfl⟩ := not_forall_not.1 hcall
    have hfails : Deployment.serve f (.users c) d = (.error (.unreachable .users), d) := by
      simp only [Deployment.serve, Deployment.answer, if_neg husers]
    rw [hfails]
    exact .inr ⟨.users, rfl⟩

/-! ## The cache of the service -/

namespace Service

open Authorization Deployment

variable {s : Setup} {f : Supply} {w : Service}

/-- Whether all entries of the cache of a service are up to date. -/
def UpToDate (w : Service) : Prop :=
  Authorization.UpToDate TimedCache.Holds w.process.parts

/-- What keeps parts in step keeps the entries up to date. -/
theorem UpToDate.run {d : Deployment} (hd : d.InReach) {α : Type} {p : UseCase α}
    {P : Parts TimedCache Deployment → Parts TimedCache Deployment → Prop}
    (hp : Transparent f.surroundings P p fun _ => InStep TimedCache.Holds none)
    (h : P d.parts d.parts) :
    Authorization.UpToDate TimedCache.Holds (p.runOn (Deployment.serve f) d).2.parts := by
  intro subject text hholds
  have hinStep := (hp.run _ _ h).2
  rw [runOn_parts hd] at hinStep
  exact hinStep.text?_eq hholds

/-- A step keeps the entries up to date. -/
theorem Step.upToDate {w' : Service} (hstep : Step s f w w') (hreach : w.process.InReach)
    (h : UpToDate w) : UpToDate w' := by
  have hcache : Unreliable f.surroundings.cache TimedCache.Holds := TimedCache.unreliable_answer
  obtain ⟨hsessions, husers, hcondition⟩ := hreach
  cases hstep with
  | @perform α op next hnext =>
    have hstart : InReach { w.process with users := { w.process.users with nextId := next } } :=
      ⟨hsessions, husers, hcondition⟩
    exact UpToDate.run hstart (op.unseen hcache) (.withNext h.inStep hnext)
  | @handle before after task htasks =>
    have hstart : InReach { w.process with tasks := before ++ after } :=
      ⟨hsessions, husers, hcondition⟩
    -- which handlers wait does not matter for the entries
    have hwaiting : UpToDate ⟨{ w.process with tasks := before ++ after }, w.issued⟩ := h
    exact UpToDate.run hstart ((task.1.consults_handle task.2).transparent_inStep hcache)
      hwaiting.inStep
  | sweep =>
    refine UpToDate.run ⟨hsessions, husers, hcondition⟩ (Consults.transparent_inStep hcache ?_)
      h.inStep
    exact .asks (asks_sweepAll trivial fun _ => trivial)
  | evict key =>
    rintro subject text ⟨e, he, htext⟩
    exact h _ _ ⟨e, (Table.get?_erase_eq_some_iff.1 he).2, htext⟩
  | advance => exact h

/-- **The cache is up to date.**  So it is in whatever becomes of the service. -/
theorem reachable_upToDate (h : Reachable s f w) : UpToDate w := by
  induction h with
  | start h =>
    rintro subject text ⟨e, he, -⟩
    rw [Deployment.parts, h.cache] at he
    cases he
  | step h hstep ih => exact hstep.upToDate (reachable_settled h).toInReach ih

/-- **No operation shows the cache of the service.**  It has the result that it would have if the
repositories were asked for all facts and permissions. -/
theorem perform_uncached (h : Reachable s f w) {α : Type} (op : Operation α) {next : UserId}
    (hnext : w.process.users.users.get? next = none) :
    let start : Deployment :=
      { w.process with users := { w.process.users with nextId := next } }
    ((op.body s).runOn (Deployment.serve f) start).1 =
      ((uncached (op.body s)).runOn (Deployment.serve f) start).1 := by
  intro start
  have hcache : Unreliable f.surroundings.cache TimedCache.Holds := TimedCache.unreliable_answer
  obtain ⟨hsessions, husers, hcondition⟩ := (reachable_settled h).toInReach
  have hstart : start.InReach := ⟨hsessions, husers, hcondition⟩
  have hready := ReadyInStep.withNext (reachable_upToDate h).inStep hnext
  have hunseen : Unseen f.surroundings TimedCache.Holds (op.body s) := op.unseen hcache
  obtain ⟨hsame, -⟩ := hunseen.run _ _ hready
  exact (congrArg Prod.fst (runOn_parts hstart _)).symm.trans
    (hsame.trans (congrArg Prod.fst (runOn_parts hstart _)))

end Service
end SessionAuth
