import SessionAuth.Proofs.Service.Operation
import SessionAuth.Proofs.Service.Unchanged

/-!
# What creations of accounts promise

Anyone may register an account, and a caller with the permission may create one for someone.  Both
trim the email, check what they were given, and then leave it to the repository whether the email
is in use.  They do not look for the email themselves, so that there is nothing that could be out of
date when the account is created.

Whatever it is answered, a creation asks the repository for no account but one with the trimmed
email (`MayAsk`).  It ends with the answer to that question, or it was refused before it asked
(`Outcome`).  No other operation creates an account (`createsNone_operation`).
-/

set_option autoImplicit false

namespace SessionAuth

open Environment Fallible Text
open Deployment (Looks)

/-! ## Programs that fail only for a reason -/

section Reasons

variable {α β : Type} {why : Talk → Error → Prop} {said : Talk}

/-- Whether there is a reason for each failure of a program, whatever it is answered. -/
abbrev FailsOnly (why : Talk → Error → Prop) (p : UseCase α) (said : Talk) : Prop :=
  Keeps (fun _ _ => True) (fun said r => ∀ e, r = .error e → why said e) p said

namespace FailsOnly

theorem pure (a : α) : FailsOnly why (Pure.pure a) said := (keeps_pure a).2 nofun

theorem throw {e : Error} (h : why said e) :
    FailsOnly why (MonadExcept.throw e : UseCase α) said := by
  refine (keeps_throw e).2 ?_
  rintro _ ⟨⟩
  exact h

theorem bind {p : UseCase α} {f : α → UseCase β} (hp : FailsOnly why p said)
    (hf : ∀ a said, FailsOnly why (f a) said) : FailsOnly why (p >>= f) said := by
  refine (keeps_bind p f).2 (hp.mono fun said r hr => ?_)
  cases r with
  | ok a => exact hf a said
  | error e =>
    rintro _ ⟨⟩
    exact hr e rfl

/-- What becomes a result is no failure. -/
theorem attempt (p : UseCase α) : FailsOnly why p.attempt said :=
  (keeps_attempt p).2 (Keeps.of_asks (asks_of_forall (fun _ => trivial) p) (fun _ _ h => h)
    fun _ _ _ => nofun)

end FailsOnly

end Reasons

/-! ## Permissions -/

namespace Authorization

variable {said : Talk}

theorem failsOnly_bestEffort {why : Talk → Error → Prop} (p : UseCase Unit) :
    FailsOnly why (bestEffort p) said :=
  .bind (.attempt p) fun _ _ => .pure _

theorem failsOnly_cached? {why : Talk → Error → Prop} {α : Type} (d : Json.Decoder α)
    (key : String) : FailsOnly why (cached? d key) said := by
  refine .bind (.attempt _) fun r _ => ?_
  cases r <;> exact .pure _

/-- Why a caller does not get a permission. -/
inductive IsRefusal (required : Permission) (said : Talk) : Error → Prop
  | accountGone : IsRefusal required said .accountGone
  | notActivated : IsRefusal required said .notActivated
  | suspended : IsRefusal required said .suspended
  | permissionMissing : IsRefusal required said (.permissionMissing required)
  /-- It could not be found out what the role holds. -/
  | unknown {role : Role} {e : Error} (h : ⟨.grants (.ofRole role), .error e⟩ ∈ said) :
      IsRefusal required said e

/-- Whether the repository of users failed to look someone up. -/
def FailsToFind (said : Talk) (e : Error) : Prop :=
  ∃ id, ⟨.users (.findById id), .error e⟩ ∈ said

theorem failsOnly_userFacts (ttls : CacheTtls) (user : UserId) :
    FailsOnly (fun said e => e = .userWithIdMissing user ∨ FailsToFind said e)
      (userFacts ttls user) said := by
  refine .bind (failsOnly_cached? _ _) fun found said => ?_
  cases found with
  | some facts => exact .pure _
  | none =>
    refine .bind ((keeps_usersCall (c := .findById user)).2 ⟨trivial, ?_⟩) fun u said => ?_
    · rintro _ e rfl
      exact .inr ⟨user, List.mem_append_right _ (List.mem_singleton_self _)⟩
    · cases u with
      | none => exact .throw (.inl rfl)
      | some u => exact .bind (failsOnly_bestEffort _) fun _ _ => .pure _

variable {required : Permission}

theorem failsOnly_rolePermissions (ttls : CacheTtls) (role : Role) :
    FailsOnly (fun said e => IsRefusal required said e ∨ FailsToFind said e)
      (rolePermissions ttls role) said := by
  refine .bind (failsOnly_cached? _ _) fun found said => ?_
  cases found with
  | some permissions => exact .pure _
  | none =>
    refine .bind ((keeps_grantsCall (c := .ofRole role)).2 ⟨trivial, ?_⟩) fun permissions said =>
      .bind (failsOnly_bestEffort _) fun _ _ => .pure _
    rintro _ e rfl
    exact .inl (.unknown (List.mem_append_right _ (List.mem_singleton_self _)))

/-- A user who is not there counts as one whose account is gone. -/
theorem failsOnly_checkStatus (ttls : CacheTtls) (user : UserId) :
    FailsOnly (fun said e => IsRefusal required said e ∨ FailsToFind said e)
      (checkStatus ttls user) said := by
  refine (keeps_bind _ _).2 ((keeps_attempt _).2 ((failsOnly_userFacts ttls user).mono ?_))
  rintro said (e | facts) hwhy
  · refine FailsOnly.throw ?_
    split
    · exact .inl .accountGone
    · rename_i hfound
      rcases hwhy e rfl with rfl | hfails
      · exact absurd rfl hfound
      · exact .inr hfails
  · dsimp only
    split
    · exact FailsOnly.pure _
    · exact FailsOnly.throw (.inl .notActivated)
    · exact FailsOnly.throw (.inl .suspended)

theorem failsOnly_authorize (ttls : CacheTtls) (user : UserId) :
    FailsOnly (fun said e => IsRefusal required said e ∨ FailsToFind said e)
      (authorize ttls user required) said := by
  refine .bind (failsOnly_checkStatus _ _) fun facts said => ?_
  refine .bind (failsOnly_rolePermissions _ _) fun held said => ?_
  split
  · exact .pure _
  · exact .throw (.inl .permissionMissing)

end Authorization

/-! ## Requests -/

/-- The operations that create accounts. -/
def Operation.IsCreation {α : Type} : Operation α → Prop
  | .register _ _ | .createUser _ _ => True
  | _ => False

namespace Registration

/-- A way to create an account: anyone may register one, and a caller may create one for someone. -/
inductive Creation where
  | register (email password : String)
  | createUser (c : Caller) (account : Account.NewAccount)

namespace Creation

/-- The email that is given, which is trimmed later. -/
def email : Creation → String
  | register email _ => email
  | createUser _ account => account.email

def password : Creation → String
  | register _ password => password
  | createUser _ account => account.password

/-- The use case of a creation. -/
def useCase (s : Setup) : Creation → UseCase User
  | register email password => Account.register s email password
  | createUser c account => UserAdmin.create s c account

end Creation

/-- What else goes on: all other operations, and the handlers of events. -/
inductive IsOther (s : Setup) : UseCase Unit → Prop
  | operation {α : Type} (op : Operation α) (h : ¬ op.IsCreation) :
      IsOther s (ignoring (op.body s))
  | handle (i : Invalidator) (e : Event) : IsOther s (i.handle e)

/-- What goes on at the same time: creations of accounts, and all else. -/
inductive Request (s : Setup) where
  | create (c : Creation)
  | other (p : UseCase Unit) (h : IsOther s p)

/-- The use case of a request, with the account that it creates. -/
def Request.useCase {s : Setup} : Request s → UseCase (Option User)
  | create c => do return some (← c.useCase s)
  | other p _ => do
    p
    return none

/-! ## Contracts -/

variable {s : Setup}

/-- Why an account is not created, before the repository is asked. -/
inductive IsEarly (s : Setup) (c : Creation) (said : Talk) : Error → Prop
  | emailMissing (h : (trim c.email).isEmpty) : IsEarly s c said .emailMissing
  | password {e : Error}
      (h : Password.checkNew s.passwordMinLength c.password [trim c.email] = .error e) :
      IsEarly s c said e
  | permission {caller : Caller} {account : Account.NewAccount} {e : Error}
      (hc : c = .createUser caller account) (h : Authorization.IsRefusal .userWrite said e) :
      IsEarly s c said e

/-- What a creation has come to, after what was said. -/
inductive Outcome (s : Setup) (c : Creation) (said : Talk) : Except Error User → Prop
  | refused {e : Error} (hlooks : ∀ x ∈ said, Looks x.question)
      (hearly : IsEarly s c said e ∨ Authorization.FailsToFind said e) :
      Outcome s c said (.error e)
  /-- The last question was put to the repository, and its answer is the result. -/
  | answered {new : NewUser} {r : Except Error User} {before : Talk}
      (hemail : new.email = trim c.email) (hsaid : said = before ++ [⟨.users (.create new), r⟩])
      (hlooks : ∀ x ∈ before, Looks x.question) : Outcome s c said r

/-- A creation that fails has created nothing. -/
theorem Outcome.not_mem_of_error {c : Creation} {said : Talk} {e : Error}
    (h : Outcome s c said (.error e)) (new : NewUser) (u : User) :
    ⟨.users (.create new), .ok u⟩ ∉ said := by
  intro hmem
  cases h with
  | refused hlooks => exact hlooks _ hmem
  | answered _ hsaid hlooks =>
    rw [hsaid] at hmem
    rcases List.mem_append.1 hmem with hmem | hmem
    · exact hlooks _ hmem
    · cases List.mem_singleton.1 hmem

/-- A question that creates no account. -/
def CreatesNone (q : Question) : Prop := ∀ new, q ≠ .users (.create new)

/-- What a request may ask after what was said. -/
inductive MayAsk : Request s → Talk → Question → Prop
  | looks {request : Request s} {said : Talk} {q : Question} (h : Looks q) : MayAsk request said q
  | create {c : Creation} {said : Talk} {new : NewUser} (hemail : new.email = trim c.email) :
      MayAsk (.create c) said (.users (.create new))
  | other {p : UseCase Unit} {h : IsOther s p} {said : Talk} {q : Question}
      (hq : CreatesNone q) : MayAsk (.other p h) said q

/-- How a request may end. -/
def MayEnd : Request s → Talk → Except Error (Option User) → Prop
  | .create c, said, r => ∃ r', r = r'.map some ∧ Outcome s c said r'
  | .other _ _, _, r => ∀ u, r ≠ .ok (some u)

/-! ## Creations -/

variable {said : Talk}

/-- Checking a new account, and asking the repository for it, is what all creations end with. -/
theorem keeps_account {c : Creation} {a : Account.NewAccount} (hemail : a.email = c.email)
    (hpassword : a.password = c.password) (hsaid : ∀ x ∈ said, Looks x.question) :
    Keeps (MayAsk (.create c : Request s)) (Outcome s c) (Account.create s a) said := by
  simp only [Account.create, hemail, hpassword]
  split
  · rename_i hempty
    exact keeps_throw_bind.2 (.refused hsaid (.inl (.emailMissing hempty)))
  refine (keeps_bind _ _).2 ((keeps_lift _).2 ?_)
  cases hcheck : Password.checkNew s.passwordMinLength c.password [trim c.email] with
  | error e => exact .refused hsaid (.inl (.password hcheck))
  | ok =>
    refine (keeps_bind _ _).2 (keeps_newSalt.2 ⟨.looks trivial, fun salt => ?_⟩)
    refine (keeps_usersCall (c := .create _)).2
      ⟨.create (congrArg trim hemail), fun r => .answered (congrArg trim hemail) rfl ?_⟩
    exact List.forall_mem_append.2 ⟨hsaid, List.forall_mem_singleton.2 trivial⟩

theorem keeps_creation (c : Creation) :
    Keeps (MayAsk (.create c : Request s)) (Outcome s c) (c.useCase s) [] := by
  cases c with
  | register email password => exact keeps_account rfl rfl (List.forall_mem_nil _)
  | createUser caller account =>
    refine (keeps_bind _ _).2 (Keeps.restrict (P := Looks)
      (FailsOnly.bind (Authorization.failsOnly_authorize _ _) fun _ _ => .pure ())
      (UserAdmin.looks_require caller .userWrite) (fun _ _ => .looks) fun more r hmore hwhy => ?_)
    cases r with
    | ok => exact keeps_account rfl rfl hmore
    | error e => exact .refused hmore ((hwhy e rfl).imp_left (.permission rfl))

/-! ## Other operations -/

section Others

variable {α : Type}

theorem createsNone_of_consults {p : UseCase α} (h : Consults p) : Asks CreatesNone p := by
  refine h.asks_of_isNeutral ?_ fun _ => nofun
  rintro _ hneutral new rfl
  exact hneutral

theorem createsNone_require (c : Caller) (permission : Permission) :
    Asks CreatesNone (UserAdmin.require s c permission) :=
  createsNone_of_consults (UserAdmin.consults_require c permission)

theorem createsNone_invalidate (user : UserId) (event : Event) :
    Asks CreatesNone (UserAdmin.invalidate user event) :=
  UserAdmin.asks_invalidate nofun nofun

theorem createsNone_changeGrants (c : Caller) (role : Role) {change : UseCase Bool}
    (hchange : Asks CreatesNone change) : Asks CreatesNone do
      RoleAdmin.requireManage s c
      let changed ← change
      if changed then RoleAdmin.invalidate role
      return changed :=
  RoleAdmin.asks_change (createsNone_of_consults (RoleAdmin.consults_requireManage c)) hchange
    (RoleAdmin.asks_invalidate nofun nofun)

/-- No other operation creates an account. -/
theorem createsNone_operation (op : Operation α) (h : ¬ op.IsCreation) :
    Asks CreatesNone (op.body s) := by
  unfold Operation.body
  cases op with
  | register | createUser => exact absurd trivial h
  | login => exact createsNone_of_consults (Auth.consults_login _)
  | refresh => exact createsNone_of_consults (Auth.consults_refresh _)
  | authenticate => exact createsNone_of_consults (Auth.consults_authenticate _)
  | logout => exact createsNone_of_consults (Auth.consults_logout _)
  | profile => exact createsNone_of_consults (Auth.consults_profile _)
  | changePassword => exact createsNone_of_consults (Account.consults_changePassword ..)
  | listSessions => exact createsNone_of_consults (OwnSessions.consults_list _)
  | revokeSessions => exact createsNone_of_consults (OwnSessions.consults_revoke ..)
  | getUser => exact createsNone_of_consults (UserAdmin.consults_get ..)
  | listUsers => exact createsNone_of_consults (UserAdmin.consults_list ..)
  | changeRole =>
    exact UserAdmin.asks_changeRole (createsNone_require _ _) nofun (createsNone_invalidate _ _)
  | changeStatus =>
    exact UserAdmin.asks_changeStatus (createsNone_require _ _) nofun (createsNone_invalidate _ _)
      (Sessions.asks_deleteAll nofun (fun _ => nofun) nofun)
  | deleteUser =>
    exact UserAdmin.asks_delete (createsNone_require _ _) nofun (createsNone_invalidate _ _)
  | listPermissions => exact createsNone_of_consults (RoleAdmin.consults_list ..)
  | grant | revoke => exact createsNone_changeGrants _ _ (asks_grantsCall nofun)

theorem createsNone_other {p : UseCase Unit} (h : IsOther s p) : Asks CreatesNone p := by
  cases h with
  | operation op hop => exact Asks.bind (createsNone_operation op hop) fun _ => asks_pure _
  | handle i e => exact createsNone_of_consults (i.consults_handle e)

end Others

/-- **What a request promises.** -/
theorem Request.promises (request : Request s) :
    Keeps (MayAsk request) (MayEnd request) request.useCase [] := by
  cases request with
  | create c =>
    refine (keeps_bind _ _).2 ((keeps_creation c).mono fun said r hr => ?_)
    cases r with
    | ok u => exact (keeps_pure _).2 ⟨.ok u, rfl, hr⟩
    | error e => exact ⟨.error e, rfl, hr⟩
  | other p h =>
    refine (keeps_bind _ _).2 (Keeps.of_asks (createsNone_other h) (fun _ _ => .other) ?_)
    rintro more (e | _) -
    · exact nofun
    · exact (keeps_pure _).2 nofun

end Registration
end SessionAuth
