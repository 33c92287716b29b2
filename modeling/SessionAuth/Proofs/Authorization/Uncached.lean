import SessionAuth.Cache.Memory
import SessionAuth.Proofs.Authorization.Subject
import SessionAuth.Proofs.UseCase.Questions

/-!
# Programs without the cache

`uncached` takes the cache out of a program: what was to be found there is not found, and nothing is
written or forgotten.  What remains of reading facts and permissions is the question to the
repository (`uncached_userFacts`, `uncached_rolePermissions`), and of clearing an entry nothing
remains (`uncached_clear`); a program that never goes to the cache stays what it is
(`uncached_eq_self`).
-/

set_option autoImplicit false

namespace SessionAuth
namespace Authorization

open Environment Fallible

/-- What stands in the place of a question: one to the cache is answered as by a cache that keeps
nothing. -/
def withoutCache : (q : Question) → Program interface q.Answer
  | .cache c => .done (MemoryCache.answer 0 c .empty).1
  | q => .question (I := interface) q

/-- A program from which the cache is taken out. -/
def uncached {α : Type} (p : UseCase α) : UseCase α :=
  .ofProgram (p.run.interpret withoutCache)

/-- A question that does not go to the cache. -/
def SparesCache : Question → Prop
  | .cache _ => False
  | _ => True

variable {α β : Type}

@[simp] theorem uncached_pure (a : α) : uncached (pure a) = pure a := rfl

@[simp] theorem uncached_throw (e : Error) : uncached (throw e : UseCase α) = throw e := rfl

/-- The cache is taken out of a program part by part. -/
theorem uncached_bind (p : UseCase α) (f : α → UseCase β) :
    uncached (p >>= f) = uncached p >>= fun a => uncached (f a) := by
  refine (Program.interpret_bind withoutCache p.run (ExceptT.bindCont f)).trans ?_
  show _ = (uncached p).run >>= _
  refine congrArg _ (funext fun r => ?_)
  cases r <;> rfl

@[simp] theorem uncached_attempt (p : UseCase α) : uncached p.attempt = (uncached p).attempt := by
  show Program.interpret withoutCache (Except.ok <$> p.run) = Except.ok <$> (uncached p).run
  rw [map_eq_pure_bind, map_eq_pure_bind, Program.interpret_bind]
  rfl

/-- A program that does not go to the cache has no use for it. -/
theorem uncached_eq_self {p : UseCase α} (h : Asks SparesCache p) : uncached p = p := by
  unfold Asks at h
  show p.run.interpret withoutCache = p.run
  generalize p.run = tree at h
  induction tree with
  | done a => rfl
  | ask q next ih =>
    have hnext : (fun r => (next r).interpret withoutCache) = next :=
      funext fun r => ih r (h.2 r)
    have hq : withoutCache q = .question (I := interface) q := by
      cases q with
      | cache c => exact h.1.elim
      | _ => rfl
    show withoutCache q >>= (fun r => (next r).interpret withoutCache) = .ask q next
    rw [hq, hnext]
    rfl

/-! ## What is left of cached facts -/

variable (ttls : CacheTtls)

@[simp] theorem uncached_cached? (d : Json.Decoder α) (key : String) :
    uncached (cached? d key) = pure none := rfl

theorem uncached_clear (s : Subject) : uncached s.clear = pure () := by
  cases s <;> rfl

/-- The facts of a user, asked of the repository. -/
def storedFacts (user : UserId) : UseCase Facts := do
  match ← users (UserRepository.call (.findById user)) with
  | none => throw (.userWithIdMissing user)
  | some u => pure u.facts

/-- Without the cache the facts of a user are asked of the repository. -/
theorem uncached_userFacts (user : UserId) :
    uncached (userFacts ttls user) = storedFacts user := by
  have hfind : Asks SparesCache (users (UserRepository.call (.findById user))) :=
    asks_usersCall trivial
  simp only [userFacts, uncached_bind, uncached_cached?, pure_bind, uncached_eq_self hfind]
  refine congrArg _ (funext fun u => ?_)
  cases u <;> rfl

/-- Without the cache the permissions of a role are asked of the repository. -/
theorem uncached_rolePermissions (role : Role) :
    uncached (rolePermissions ttls role) = grants (Grants.call (.ofRole role)) := by
  have hof : Asks SparesCache (grants (Grants.call (.ofRole role))) := asks_grantsCall trivial
  simp only [rolePermissions, uncached_bind, uncached_cached?, pure_bind, uncached_eq_self hof]
  refine Eq.trans (congrArg _ (funext fun permissions => ?_)) (bind_pure _)
  rfl

end Authorization
end SessionAuth
