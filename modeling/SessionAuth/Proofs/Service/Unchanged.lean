import SessionAuth.Proofs.Authorization.Subject
import SessionAuth.Proofs.Service.Process
import SessionAuth.Proofs.Session.Fading
import SessionAuth.Proofs.UseCase.Questions
import SessionAuth.Proofs.User.Repository
import SessionAuth.UseCase.OwnSessions
import SessionAuth.UseCase.RoleAdmin
import SessionAuth.UseCase.UserAdmin

/-!
# Processes that nothing was done to

`Deployment.Unchanged` compares two states of a process by what can be read: the accounts, the
permissions of roles, and what is live in the session store.  Looking something up may purge what
has expired, fill the cache and use up ids, and changes no more than that
(`Deployment.preserves_unchanged`).

A program is `Atomic` if it leaves the process unchanged when it fails.  Use cases are, because they
look things up before they write and then do nothing that fails; `Succeeds` is for the second half.
-/

set_option autoImplicit false

namespace SessionAuth

open Environment Fallible

/-! ## Looking up -/

namespace Deployment

/-- A process with the same accounts and permissions, in which the same handlers wait. -/
structure SameAside (d d' : Deployment) : Prop where
  users : d'.users.users = d.users.users
  grants : ∀ role, d'.grants.ofRole role = d.grants.ofRole role
  clock : d'.clock = d.clock
  tasks : d'.tasks = d.tasks
  inReach : d.InReach → d'.InReach

/-- A process in which, next to that, the same sessions are live. -/
structure Unchanged (d d' : Deployment) : Prop extends SameAside d d' where
  sessions : SessionStore.Faded d.clock.elapsed d.sessions d'.sessions

/-- A question that looks something up, or goes to the cache. -/
def Looks : Question → Prop
  | .sessions (.call (.create _ _)) => False
  | .sessions (.call (.rotate _)) => False
  | .sessions (.call (.delete _)) => False
  | .sessions (.call (.sweepUser _)) => False
  | .users (.create _) => False
  | .users (.setPassword _ _) => False
  | .users (.setRole _ _) => False
  | .users (.setStatus _ _) => False
  | .users (.delete _) => False
  | .grants (.grant _ _) => False
  | .grants (.revoke _ _) => False
  | .publish _ => False
  | _ => True

variable {f : Supply} {d₀ d d' : Deployment} {α : Type}

/-- What is asked of the session store concerns nothing else. -/
theorem SameAside.serve_sessions (h : SameAside d₀ d) (q : SessionStore.Question) :
    SameAside d₀ (serve f (.sessions q) d).2 := by
  have hreach : d₀.InReach → (serve f (.sessions q) d).2.InReach :=
    fun hd => (h.inReach hd).serve _
  simp only [serve, answer] at hreach ⊢
  split at hreach
  · rename_i hsessions
    rw [if_pos hsessions]
    exact ⟨h.users, h.grants, h.clock, h.tasks, hreach⟩
  · rename_i hsessions
    rw [if_neg hsessions]
    exact h

theorem SameAside.serve (h : SameAside d₀ d) {q : Question} (hq : Looks q) :
    SameAside d₀ (Deployment.serve f q d).2 := by
  have hreach : d₀.InReach → (Deployment.serve f q d).2.InReach :=
    fun hd => (h.inReach hd).serve q
  cases q with
  | sessions q => exact h.serve_sessions q
  | users c =>
    simp only [Deployment.serve, answer] at hreach ⊢
    split at hreach
    · rename_i husers
      rw [if_pos husers]
      have hsame : (UserTable.answer d.clock.wall c d.users).2.users = d.users.users := by
        cases c <;> first | rfl | exact hq.elim
      exact ⟨hsame.trans h.users, h.grants, h.clock, h.tasks, hreach⟩
    · rename_i husers
      rw [if_neg husers]
      exact h
  | grants c =>
    refine ⟨h.users, fun role => ?_, h.clock, h.tasks, hreach⟩
    cases c <;> first | exact h.grants role | exact hq.elim
  | publish => exact hq.elim
  | _ => exact ⟨h.users, h.grants, h.clock, h.tasks, hreach⟩

theorem Unchanged.refl (d : Deployment) : Unchanged d d :=
  ⟨⟨rfl, fun _ => rfl, rfl, rfl, id⟩, .refl _ _⟩

/-- Reading in the session store purges what has expired. -/
theorem Unchanged.serve (h : Unchanged d₀ d) {q : Question} (hq : Looks q) :
    Unchanged d₀ (Deployment.serve f q d).2 := by
  refine ⟨h.toSameAside.serve hq, ?_⟩
  have hsessions := h.sessions
  rw [← h.clock] at hsessions
  rw [← h.clock]
  cases q with
  | sessions q =>
    simp only [Deployment.serve, answer]
    split
    · cases q with
      | indexedUsers => exact hsessions
      | call c =>
        cases c with
        | hasJti => exact hsessions
        | get id => exact hsessions.purgeSession_right id
        | listByUser user => exact (hsessions.purgeIndex_right user).purgeSessions_right _
        | _ => exact hq.elim
    · exact hsessions
  | users c =>
    simp only [Deployment.serve, answer]
    split <;> exact hsessions
  | _ => exact hsessions

/-- Looking something up changes nothing. -/
theorem preserves_unchanged {p : UseCase α} (hp : Asks Looks p) :
    Preserves (Deployment.serve f) (Unchanged d₀) p :=
  Preserves.of_asks hp fun _ _ hq h => h.serve hq

/-! ### What can be read -/

namespace Unchanged

theorem get_eq (h : Unchanged d d') (id : String) :
    (d'.sessions.get d'.clock.elapsed id).1 = (d.sessions.get d.clock.elapsed id).1 := by
  rw [h.clock]
  exact h.sessions.session?_eq id

theorem listByUser_eq (h : Unchanged d d') (user : UserId) :
    (d'.sessions.listByUser d'.clock.elapsed user).1 =
      (d.sessions.listByUser d.clock.elapsed user).1 := by
  rw [h.clock]
  exact (h.sessions.listByUser user).1

theorem hasJti_eq (h : Unchanged d d') (jti : String) :
    d'.sessions.hasJti d'.clock.elapsed jti = d.sessions.hasJti d.clock.elapsed jti := by
  rw [h.clock]
  exact congrArg Option.isSome (h.sessions.pointer?_eq jti)

end Unchanged
end Deployment

/-! ## Use cases that look something up -/

section Looking

open Deployment

variable {s : Setup}

theorem Authorization.looks_checkStatus (ttls : CacheTtls) (user : UserId) :
    Asks Looks (checkStatus ttls user) :=
  asks_checkStatus (asks_userFacts trivial trivial fun _ _ => trivial)

theorem Authorization.looks_authorize (ttls : CacheTtls) (user : UserId) (required : Permission) :
    Asks Looks (authorize ttls user required) :=
  asks_authorize (asks_userFacts trivial trivial fun _ _ => trivial) fun _ =>
    asks_rolePermissions trivial trivial fun _ _ => trivial

theorem UserAdmin.looks_require (c : Caller) (permission : Permission) :
    Asks Looks (require s c permission) :=
  Asks.bind (Authorization.looks_authorize _ _ _) fun _ => asks_pure _

theorem Auth.looks_authenticate (token : String) : Asks Looks (authenticate s token) := by
  refine Asks.bind (asks_now trivial) fun now => Asks.bind (asks_lift _) fun claims => ?_
  refine Asks.bind (Sessions.asks_isActive trivial fun _ => trivial) fun active => ?_
  dsimp only
  split
  · exact asks_throw_bind _ _
  exact Asks.bind (Authorization.looks_checkStatus _ _) fun _ => asks_pure _

theorem Auth.looks_profile (c : Caller) : Asks Looks (profile c) := by
  refine Asks.bind (asks_usersCall trivial) fun u => ?_
  cases u with
  | none => exact asks_throw _
  | some u => exact asks_pure _

theorem OwnSessions.looks_list (c : Caller) : Asks Looks (list s c) :=
  Asks.bind (Authorization.looks_authorize _ _ _) fun _ =>
    Asks.bind (asks_call trivial) fun _ => asks_pure _

theorem UserAdmin.looks_get (c : Caller) (user : UserId) : Asks Looks (get s c user) := by
  refine Asks.bind (looks_require _ _) fun _ => Asks.bind (asks_usersCall trivial) fun u => ?_
  cases u with
  | none => exact asks_throw _
  | some u => exact asks_pure _

theorem UserAdmin.looks_list (c : Caller) (filter : UserFilter) (page : PageRequest) :
    Asks Looks (list s c filter page) :=
  Asks.bind (looks_require _ _) fun _ => asks_usersCall trivial

theorem RoleAdmin.looks_list (c : Caller) (role : Role) : Asks Looks (list s c role) :=
  Asks.bind (UserAdmin.looks_require _ _) fun _ =>
    Authorization.asks_rolePermissions trivial trivial fun _ _ => trivial

end Looking

/-! ## Parts that cannot fail -/

open Deployment

section Succeeds

variable {f : Supply} {α β : Type}

/-- A program that succeeds where the backends are in reach. -/
abbrev Succeeds (f : Supply) (p : UseCase α) : Prop :=
  Triple (serve f) InReach p fun r d => d.InReach ∧ ∃ a, r = .ok a

theorem Succeeds.pure (a : α) : Succeeds f (Pure.pure a) := ⟨fun _ hd => ⟨hd, a, rfl⟩⟩

theorem Succeeds.bind {p : UseCase α} {k : α → UseCase β} (hp : Succeeds f p)
    (hk : ∀ a, Succeeds f (k a)) : Succeeds f (p >>= k) := by
  refine Triple.bind hp (fun a => (hk a).mono (fun _ hd => hd.1) fun _ _ h => h) ?_
  rintro e d ⟨-, a, ⟨⟩⟩

theorem succeeds_publish (e : Event) : Succeeds f (publish e) :=
  ⟨fun _ hd => ⟨hd.serve _, _, rfl⟩⟩

theorem succeeds_grants (c : Grants.Call) : Succeeds f (grants (Grants.call c)) := by
  refine ⟨fun d hd => ⟨hd.serve (f := f) (.grants c), ?_⟩⟩
  cases c <;> exact ⟨_, rfl⟩

/-- The store refuses only lifetimes and tokens. -/
theorem succeeds_sessions {c : SessionStore.Call}
    (hcreate : ∀ session ttls, c ≠ .create session ttls) (hrotate : ∀ r, c ≠ .rotate r) :
    Succeeds f (sessions (SessionStore.call c)) := by
  refine ⟨fun d hd => ?_⟩
  rw [runOn_sessions]
  refine ⟨hd.serve _, ?_⟩
  rw [hd.serve_sessions]
  cases c with
  | create session ttls => exact absurd rfl (hcreate session ttls)
  | rotate r => exact absurd rfl (hrotate r)
  | _ => exact ⟨_, rfl⟩

/-- Clearing an entry does not fail, whatever becomes of the entry. -/
theorem Subject.succeeds_clear (subject : Subject) : Succeeds f subject.clear := by
  refine ⟨fun d hd => ?_⟩
  rw [Authorization.runOn_clear]
  exact ⟨hd.serve _, (), rfl⟩

theorem Sessions.succeeds_deleteIds (ids : List String) : Succeeds f (deleteIds ids) := by
  rw [deleteIds]
  split
  · exact .pure _
  · exact succeeds_sessions (by simp) (by simp)

theorem Sessions.succeeds_delete (x : Deletion) : Succeeds f (delete x) :=
  .bind (succeeds_sessions (by simp) (by simp)) fun _ => succeeds_deleteIds _

theorem Sessions.succeeds_deleteAll (user : UserId) : Succeeds f (deleteAll user) := by
  refine .bind (succeeds_sessions (by simp) (by simp)) fun _ => ?_
  refine .bind (succeeds_deleteIds _) fun _ => ?_
  exact .bind (succeeds_sessions (by simp) (by simp)) fun _ => .pure _

end Succeeds

/-! ## Programs that change nothing if they fail -/

section Atomic

variable {f : Supply} {d₀ : Deployment} {α β : Type}

/-- A program that, from a process in which nothing was changed, changes nothing or succeeds. -/
abbrev Atomic (f : Supply) (d₀ : Deployment) (p : UseCase α) : Prop :=
  Triple (serve f) (Unchanged d₀) p fun r d => ∀ e, r = .error e → Unchanged d₀ d

theorem Atomic.of_looks {p : UseCase α} (hp : Asks Looks p) : Atomic f d₀ p :=
  (preserves_unchanged hp).mono (fun _ h => h) fun _ _ h _ _ => h

theorem Atomic.of_succeeds (hreach : d₀.InReach) {p : UseCase α} (hp : Succeeds f p) :
    Atomic f d₀ p := by
  refine hp.mono (fun _ h => h.inReach hreach) ?_
  rintro _ _ ⟨-, a, rfl⟩ _ ⟨⟩

theorem Atomic.throw_bind {e : Error} {k : β → UseCase α} :
    Atomic f d₀ ((throw e : UseCase β) >>= k) :=
  Triple.throw_bind fun _ h _ _ => h

/-- Something may be looked up first. -/
theorem Atomic.bind {p : UseCase β} {k : β → UseCase α} (hp : Asks Looks p)
    (hk : ∀ b, Atomic f d₀ (k b)) : Atomic f d₀ (p >>= k) :=
  Preserves.triple_bind (preserves_unchanged hp) hk fun _ _ h _ _ => h

/-- A change may be refused, and what comes after it must not fail. -/
theorem Atomic.change_bind {p : UseCase Bool} {e : Error} {k : UseCase α}
    (hp : Triple (serve f) (Unchanged d₀) p fun r d =>
      d.InReach ∧ (r = .ok true ∨ r = .ok false ∧ Unchanged d₀ d))
    (hk : Succeeds f k) : Atomic f d₀ (p >>= fun there => if !there then throw e else k) := by
  refine Triple.bind hp (fun there => ?_) fun _ _ h => ?_
  · cases there with
    | true =>
      refine hk.mono (fun _ h => h.1) ?_
      rintro _ _ ⟨-, a, rfl⟩ _ ⟨⟩
    | false =>
      refine Triple.throw fun d h _ _ => ?_
      rcases h.2 with htrue | ⟨-, hsame⟩
      · cases htrue
      · exact hsame
  · rcases h.2 with htrue | ⟨hfalse, -⟩
    · cases htrue
    · cases hfalse

end Atomic

/-! ## Changes of accounts that are not there -/

/-- A change of an account is refused if there is no such account, and then nothing is changed. -/
theorem refuses_account {f : Supply} {d₀ : Deployment} (hreach : d₀.InReach) (user : UserId)
    {p : UseCase Bool} {c : UserRepository.Call}
    (hp : ∀ d : Deployment, d.InReach → runOn (serve f) p d =
      (.ok (d.users.users.get? user).isSome, (serve f (.users c) d).2))
    (habsent : ∀ {now} {t : UserTable}, t.users.get? user = none →
      (UserTable.answer now c t).2.users = t.users) :
    Triple (serve f) (Unchanged d₀) p fun r d =>
      d.InReach ∧ (r = .ok true ∨ r = .ok false ∧ Unchanged d₀ d) := by
  refine ⟨fun d h => ?_⟩
  have hd := h.inReach hreach
  have hd' := hd.serve (f := f) (.users c)
  rw [hp d hd]
  refine ⟨hd', ?_⟩
  cases hu : d.users.users.get? user with
  | some u => exact .inl rfl
  | none =>
    refine .inr ⟨rfl, ?_⟩
    rw [hd.serve_users] at hd' ⊢
    exact ⟨⟨(habsent hu).trans h.users, h.grants, h.clock, h.tasks, fun _ => hd'⟩, h.sessions⟩

end SessionAuth
