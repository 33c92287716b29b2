import SessionAuth.Proofs.Password.Verify
import SessionAuth.Proofs.Service.Process
import SessionAuth.Proofs.UseCase.Questions
import SessionAuth.UseCase.OwnSessions
import SessionAuth.UseCase.RoleAdmin
import SessionAuth.UseCase.UserAdmin

/-!
# Whose fault an error is

Most errors lie with the request: it asks for what is not there or not allowed, or is wrong in
itself.  Some lie with the service, and a client is not told about them (`ErrorKind.isInternal`).
They have few causes: a backend that is out of reach, and a stored password hash that is no hash.  A
`Healthy` process has neither.

A use case `Copes` with whatever it is asked if it leaves a healthy process healthy, and fails, if
it does, because of the request.  This is shown part by part, and where it matters what a part ends
with - a new salt, or the account whose hash is to be compared with - together with that
(`CopesWith`).
-/

set_option autoImplicit false

namespace SessionAuth

open Environment Fallible Deployment Text

/-! ## Errors -/

/-- An error that lies with the request. -/
def Error.IsPublic (e : Error) : Prop := e.kind.isInternal = false

/-- A result that is as it should be, or an error that lies with the request. -/
def BlamelessWith {α : Type} (A : α → Prop) : Except Error α → Prop
  | .ok a => A a
  | .error e => e.IsPublic

/-- Any result, or an error that lies with the request. -/
abbrev Blameless {α : Type} (r : Except Error α) : Prop := BlamelessWith (fun _ => True) r

namespace BlamelessWith

variable {α β : Type} {A : α → Prop} {B : β → Prop}

theorem holds {r : Except Error α} (h : BlamelessWith A r) {a : α} (hr : r = .ok a) : A a := by
  rw [hr] at h
  exact h

theorem isPublic {r : Except Error α} (h : BlamelessWith A r) {e : Error} (hr : r = .error e) :
    e.IsPublic := by
  rw [hr] at h
  exact h

theorem ite {c : Prop} [Decidable c] {r r' : Except Error α} (h : BlamelessWith A r)
    (h' : BlamelessWith A r') : BlamelessWith A (if c then r else r') := by
  split
  · exact h
  · exact h'

theorem bind {r : Except Error α} {k : α → Except Error β} (h : BlamelessWith A r)
    (hk : ∀ a, A a → BlamelessWith B (k a)) : BlamelessWith B (r >>= k) := by
  cases r with
  | ok a => exact hk a h
  | error e => exact h

theorem mapM {g : β → Except Error α} (h : ∀ b, Blameless (g b)) (bs : List β) :
    Blameless (bs.mapM g) := by
  induction bs with
  | nil => exact trivial
  | cons b bs ih =>
    rw [List.mapM_cons]
    exact (h b).bind fun a _ => ih.bind fun rest _ => trivial

end BlamelessWith

/-! ## Hashes -/

namespace Password

/-- A salt that hashes are computed with. -/
structure IsSalt (salt : List UInt8) : Prop where
  min : 8 ≤ salt.length
  max : salt.length ≤ 48

/-- A stored hash that was made for some password. -/
def IsProduced (stored : String) : Prop :=
  ∃ salt password, IsSalt salt ∧ stored = hashNew salt password

theorem IsProduced.isWellFormed {stored : String} (h : IsProduced stored) :
    IsWellFormed stored := by
  obtain ⟨salt, password, hsalt, rfl⟩ := h
  exact isWellFormed_hashNew hsalt.min hsalt.max password

end Password

/-! ## Processes -/

namespace Deployment

/-- A process all of whose backends are in reach and well, and all of whose stored hashes are
hashes. -/
structure Healthy (d : Deployment) : Prop extends InReach d where
  well : d.cacheCondition = .well
  hashes : ∀ user ∈ d.users.users.values, Password.IsProduced user.passwordHash

/-- A question that brings in no hash but those that were made for a password. -/
def KeepsHashes : Question → Prop
  | .users (.create user) => Password.IsProduced user.passwordHash
  | .users (.setPassword _ hash) => Password.IsProduced hash
  | _ => True

variable {f : Supply} {d d' : Deployment}

/-- Health is a matter of the backends and the accounts. -/
theorem Healthy.of_eq (h : d.Healthy) (hsessions : d'.sessionsReachable = d.sessionsReachable)
    (husers : d'.usersReachable = d.usersReachable) (hcache : d'.cacheCondition = d.cacheCondition)
    (haccounts : d'.users.users = d.users.users) : d'.Healthy where
  sessions := hsessions.trans h.sessions
  users := husers.trans h.users
  cache := hcache ▸ h.cache
  well := hcache.trans h.well
  hashes := haccounts ▸ h.hashes

/-- Changing accounts in other respects leaves their hashes. -/
theorem Healthy.hashes_update (h : d.Healthy) (now : Timestamp) (id : UserId)
    {change : User → User}
    (hchange : ∀ user, Password.IsProduced user.passwordHash →
      Password.IsProduced (change user).passwordHash) :
    ∀ user ∈ (d.users.update now id change).2.users.values,
      Password.IsProduced user.passwordHash := by
  intro user huser
  obtain ⟨e, he, rfl⟩ := List.mem_map.1 huser
  obtain ⟨e', he', rfl⟩ := List.mem_map.1 he
  have hkept := h.hashes e'.2 (List.mem_map_of_mem he')
  split
  · exact hchange e'.2 hkept
  · exact hkept

theorem Healthy.hashes_answer (h : d.Healthy) (now : Timestamp) {c : UserRepository.Call}
    (hc : KeepsHashes (.users c)) :
    ∀ user ∈ (UserTable.answer now c d.users).2.users.values,
      Password.IsProduced user.passwordHash := by
  cases c with
  | findById | findByEmail | list => exact h.hashes
  | setRole | setStatus => exact h.hashes_update now _ fun _ hkept => hkept
  | setPassword id hash => exact h.hashes_update now id fun _ _ => hc
  | create user =>
    simp only [UserTable.answer, UserTable.create]
    split
    · exact h.hashes
    · intro found hfound
      rcases List.mem_cons.1 hfound with rfl | hfound
      · exact hc
      · obtain ⟨e, he, rfl⟩ := List.mem_map.1 hfound
        exact h.hashes e.2 (List.mem_map_of_mem (List.mem_filter.1 he).1)
  | delete id =>
    intro found hfound
    obtain ⟨e, he, rfl⟩ := List.mem_map.1 hfound
    exact h.hashes e.2 (List.mem_map_of_mem (List.mem_filter.1 he).1)

/-- A process stays healthy, whatever it is asked. -/
theorem Healthy.serve (h : d.Healthy) {q : Question} (hq : KeepsHashes q) :
    (Deployment.serve f q d).2.Healthy := by
  refine ⟨h.toInReach.serve q, (serve_frame q d).2.2.2.trans h.well, ?_⟩
  cases q with
  | users c =>
    rw [h.serve_users]
    exact h.hashes_answer _ hq
  | sessions q =>
    rw [h.serve_sessions]
    exact h.hashes
  | _ => exact h.hashes

end Deployment

/-! ## Programs that cope -/

section Copes

variable {f : Supply} {α β : Type} {A : α → Prop} {B : β → Prop}

/-- A program that leaves a healthy process healthy, and ends with a result that is as it should be,
or with an error that lies with the request. -/
abbrev CopesWith (f : Supply) (p : UseCase α) (A : α → Prop) : Prop :=
  Triple (serve f) Healthy p fun r d => d.Healthy ∧ BlamelessWith A r

/-- A program that does so whatever its result is. -/
abbrev Copes (f : Supply) (p : UseCase α) : Prop := CopesWith f p fun _ => True

namespace CopesWith

theorem pure {a : α} (h : A a) : CopesWith f (Pure.pure a) A := ⟨fun _ hd => ⟨hd, h⟩⟩

theorem throw {e : Error} (h : e.IsPublic) : CopesWith f (MonadExcept.throw e) A :=
  ⟨fun _ hd => ⟨hd, h⟩⟩

theorem throw_bind {e : Error} {k : β → UseCase α} (h : e.IsPublic) :
    CopesWith f ((MonadExcept.throw e : UseCase β) >>= k) A :=
  Triple.throw_bind fun _ hd => ⟨hd, h⟩

theorem lift {r : Except Error α} (h : BlamelessWith A r) : CopesWith f (liftM r) A :=
  Triple.lift fun _ hd => ⟨hd, h⟩

theorem bind {p : UseCase α} {k : α → UseCase β} (hp : CopesWith f p A)
    (hk : ∀ a, A a → CopesWith f (k a) B) : CopesWith f (p >>= k) B :=
  Triple.bind hp (fun a => ⟨fun d hd => (hk a hd.2).run d hd.1⟩) fun _ _ h => h

theorem attempt {p : UseCase α} (hp : CopesWith f p A) :
    CopesWith f p.attempt (BlamelessWith A) := by
  refine ⟨fun d hd => ?_⟩
  rw [runOn_attempt]
  exact hp.run d hd

end CopesWith

/-- What comes after a part of whose result nothing has to be known. -/
theorem Copes.bind {p : UseCase α} {k : α → UseCase β} (hp : Copes f p)
    (hk : ∀ a, CopesWith f (k a) B) : CopesWith f (p >>= k) B :=
  CopesWith.bind hp fun a _ => hk a

/-! ### Questions -/

theorem copes_now : Copes f now :=
  ⟨fun _ hd => ⟨hd.serve (f := f) (q := .now) trivial, trivial⟩⟩

theorem copes_newId : Copes f newId :=
  ⟨fun _ hd => ⟨hd.serve (f := f) (q := .newId) trivial, trivial⟩⟩

theorem copes_newSalt (hsalts : ∀ n, Password.IsSalt (f.salts n)) :
    CopesWith f newSalt Password.IsSalt :=
  ⟨fun _ hd => ⟨hd.serve (f := f) (q := .newSalt) trivial, hsalts _⟩⟩

theorem copes_publish (e : Event) : Copes f (publish e) :=
  ⟨fun _ hd => ⟨hd.serve (f := f) (q := .publish e) trivial, trivial⟩⟩

theorem copes_grants (c : Grants.Call) : Copes f (grants (Grants.call c)) := by
  refine ⟨fun d hd => ⟨hd.serve (f := f) (q := .grants c) trivial, ?_⟩⟩
  cases c <;> exact trivial

/-- The session store refuses lifetimes and tokens. -/
theorem copes_sessions (c : SessionStore.Call) : Copes f (sessions (SessionStore.call c)) := by
  refine ⟨fun d hd => ?_⟩
  rw [runOn_sessions]
  refine ⟨hd.serve trivial, ?_⟩
  rw [hd.serve_sessions]
  cases c with
  | create session ttls =>
    simp only [SessionStore.answer, SessionStore.create]
    split
    · exact rfl
    · exact trivial
  | rotate r =>
    simp only [SessionStore.answer, SessionStore.rotate]
    split
    · exact rfl
    · split
      · exact rfl
      · split
        · exact rfl
        · exact trivial
  | _ => exact trivial

/-- What the repository of users answers is known from the accounts. -/
theorem copesWith_users {c : UserRepository.Call} {A : c.Answer → Prop}
    (hc : KeepsHashes (.users c)) (hanswer : ∀ d : Deployment, d.Healthy →
      BlamelessWith A (UserTable.answer d.clock.wall c d.users).1) :
    CopesWith f (users (UserRepository.call c)) A := by
  refine ⟨fun d hd => ?_⟩
  rw [runOn_users]
  refine ⟨hd.serve hc, ?_⟩
  rw [hd.serve_users]
  exact hanswer d hd

/-- The repository of users refuses emails that are in use. -/
theorem copes_users {c : UserRepository.Call} (hc : KeepsHashes (.users c)) :
    Copes f (users (UserRepository.call c)) := by
  refine copesWith_users hc fun d _ => ?_
  cases c with
  | create user =>
    rw [UserTable.answer, UserTable.create]
    split
    · exact rfl
    · exact trivial
  | _ => exact trivial

/-- An account that is there, if it is, has a hash that was made for a password. -/
def HasHash (found : Option User) : Prop :=
  ∀ user, found = some user → Password.IsProduced user.passwordHash

theorem copes_findById (id : UserId) :
    CopesWith f (users (UserRepository.call (.findById id))) HasHash :=
  copesWith_users (c := .findById id) trivial fun _ hd user huser =>
    hd.hashes user (Table.mem_values_iff.2 ⟨id, huser⟩)

theorem copes_findByEmail (email : String) :
    CopesWith f (users (UserRepository.call (.findByEmail email))) HasHash :=
  copesWith_users (c := .findByEmail email) trivial fun _ hd user huser =>
    hd.hashes user (List.mem_of_find?_eq_some huser)

/-- Nothing comes of the failure of a program if it is caught. -/
theorem copes_attempt {p : UseCase α} (hp : Asks KeepsHashes p) : Copes f p.attempt := by
  refine ⟨fun d hd => ?_⟩
  rw [runOn_attempt]
  exact ⟨Asks.run (fun _ _ hq hd => hd.serve hq) hp hd, trivial⟩

end Copes

end SessionAuth
