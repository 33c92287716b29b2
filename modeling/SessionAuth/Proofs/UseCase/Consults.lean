import SessionAuth.Proofs.Authorization.Subject
import SessionAuth.Proofs.UseCase.Questions
import SessionAuth.UseCase.Account
import SessionAuth.UseCase.OwnSessions
import SessionAuth.UseCase.RoleAdmin
import SessionAuth.UseCase.UserAdmin

/-!
# Use cases that only consult the cache

Most use cases go to the cache for two things only: they read facts and permissions through it, and
they clear entries.  Next to that they ask neutral questions, which nothing that is cached depends
on.  `Consults` holds of programs that are put together in this way, so that what is true of these
parts is true of all such use cases at once, by induction.

The use cases that change an account or a role are not among them, but what comes before the change
is.
-/

set_option autoImplicit false

namespace SessionAuth

open Environment Fallible

/-- A question that does not go to the cache and changes no facts and no permissions, and that opens
and carries on no session without an id of its token. -/
def IsNeutral : Question → Prop
  | .sessions (.call (.create session _)) => session.currentJti.isEmpty = false
  | .sessions (.call (.rotate r)) => r.newJti.isEmpty = false
  | .users (.create _) => False
  | .users (.setRole _ _) => False
  | .users (.setStatus _ _) => False
  | .users (.delete _) => False
  | .grants (.grant _ _) => False
  | .grants (.revoke _ _) => False
  | .cache _ => False
  | _ => True

/-- Programs that read facts and permissions through the cache and clear entries, and ask neutral
questions otherwise. -/
inductive Consults : {α : Type} → UseCase α → Prop
  | asks {α : Type} {p : UseCase α} (h : Asks IsNeutral p) : Consults p
  | userFacts (ttls : Authorization.CacheTtls) (user : UserId) :
      Consults (Authorization.userFacts ttls user)
  | rolePermissions (ttls : Authorization.CacheTtls) (role : Role) :
      Consults (Authorization.rolePermissions ttls role)
  | clear (s : Subject) : Consults s.clear
  | attempt {α : Type} {p : UseCase α} (h : Consults p) : Consults p.attempt
  | bind {α β : Type} {p : UseCase α} {f : α → UseCase β} (hp : Consults p)
      (hf : ∀ a, Consults (f a)) : Consults (p >>= f)

namespace Consults

variable {α β : Type}

theorem pure (a : α) : Consults (Pure.pure a) := asks (asks_pure a)

theorem throw (e : Error) : Consults (MonadExcept.throw e : UseCase α) := asks (asks_throw e)

theorem lift (r : Except Error α) : Consults (liftM r : UseCase α) := asks (asks_lift r)

/-- What stands behind a failure is not run. -/
theorem throw_bind (e : Error) (f : α → UseCase β) :
    Consults ((MonadExcept.throw e : UseCase α) >>= f) :=
  asks (asks_throw_bind e f)

/-- Next to what goes to the cache, only neutral questions are asked. -/
theorem asks_of_isNeutral {P : Question → Prop} (hneutral : ∀ q, IsNeutral q → P q)
    (hcache : ∀ c, P (.cache c)) {p : UseCase α} (h : Consults p) : Asks P p := by
  induction h with
  | asks h => exact h.mono hneutral
  | userFacts ttls user =>
    exact Authorization.asks_userFacts (hcache _) (hneutral _ trivial) fun _ _ => hcache _
  | rolePermissions ttls role =>
    exact Authorization.asks_rolePermissions (hcache _) (hneutral _ trivial) fun _ _ => hcache _
  | clear subject =>
    cases subject with
    | user => exact Authorization.asks_clearUser (hcache _)
    | role => exact Authorization.asks_clearRole (hcache _)
  | attempt _ ih => exact ih.attempt
  | bind _ _ ihp ihf => exact ihp.bind ihf

end Consults

variable {s : Setup}

/-! ## Decisions -/

namespace Authorization

theorem consults_checkStatus (ttls : CacheTtls) (user : UserId) :
    Consults (checkStatus ttls user) := by
  refine .bind (.attempt (.userFacts ttls user)) fun r => ?_
  cases r with
  | error e => exact .throw _
  | ok facts =>
    dsimp only
    split
    · exact .pure _
    · exact .throw _
    · exact .throw _

theorem consults_authorize (ttls : CacheTtls) (user : UserId) (required : Permission) :
    Consults (authorize ttls user required) := by
  refine .bind (consults_checkStatus ttls user) fun facts => ?_
  refine .bind (.rolePermissions _ _) fun held => ?_
  split
  · exact .pure _
  · exact .throw _

end Authorization

/-! ## Sessions -/

theorem Sessions.neutral_delete (d : Deletion) : Asks IsNeutral (delete d) :=
  asks_delete trivial fun _ => trivial

theorem Sessions.neutral_deleteAll (user : UserId) : Asks IsNeutral (deleteAll user) :=
  asks_deleteAll trivial (fun _ => trivial) trivial

namespace OwnSessions

theorem consults_list (c : Caller) : Consults (list s c) :=
  .bind (Authorization.consults_authorize _ _ _) fun _ =>
    .asks (Asks.bind (asks_call trivial) fun _ => asks_pure _)

theorem consults_revoke (c : Caller) (ids : List String) (others : Bool) :
    Consults (revoke s c ids others) := by
  rw [revoke]
  split
  · exact .throw_bind _ _
  refine .bind (Authorization.consults_authorize _ _ _) fun _ => ?_
  exact .asks (Sessions.neutral_delete _)

end OwnSessions

/-! ## Logging in and out -/

namespace Auth

theorem consults_login (input : Login) : Consults (login s input) := by
  refine .asks ?_
  simp only [login]
  split
  · exact asks_throw_bind _ _
  refine Asks.bind (asks_verifyCredentials trivial) fun user => ?_
  refine Asks.bind (asks_lift _) fun _ => ?_
  refine Asks.bind (asks_issueRefresh s trivial trivial) fun refresh => ?_
  refine Asks.bind (Sessions.asks_openSession trivial trivial fun _ _ h _ _ => h) fun session => ?_
  exact asks_completePair s trivial trivial

theorem consults_refresh (input : Refresh) : Consults (refresh s input) := by
  refine .bind (.asks (asks_now trivial)) fun now => .bind (.lift _) fun claims => ?_
  refine .bind (.asks (Sessions.asks_hasJti trivial)) fun used => ?_
  dsimp only
  split
  · exact .throw_bind _ _
  refine .bind (Authorization.consults_checkStatus _ _) fun _ => .asks ?_
  refine Asks.bind (asks_issueRefresh s trivial trivial) fun issued => ?_
  refine Asks.bind (Sessions.asks_renew trivial fun _ h _ _ => h) fun session => ?_
  exact asks_completePair s trivial trivial

theorem consults_authenticate (token : String) : Consults (authenticate s token) := by
  refine .bind (.asks (asks_now trivial)) fun now => .bind (.lift _) fun claims => ?_
  refine .bind (.asks (Sessions.asks_isActive trivial fun _ => trivial)) fun active => ?_
  dsimp only
  split
  · exact .throw_bind _ _
  refine .bind (Authorization.consults_checkStatus _ _) fun facts => ?_
  exact .pure _

theorem consults_logout (c : Caller) : Consults (logout c) :=
  .asks (Asks.bind (Sessions.neutral_delete _) fun _ => asks_pure _)

theorem consults_profile (c : Caller) : Consults (profile c) := by
  refine .bind (.asks (asks_usersCall trivial)) fun u => ?_
  cases u with
  | none => exact .throw _
  | some u => exact .pure _

end Auth

/-! ## Accounts -/

/-- A change of the password changes neither the role nor the status of the account. -/
theorem Account.consults_changePassword (c : Caller) (current new : String) :
    Consults (changePassword s c current new) := by
  refine .bind (.lift _) fun _ => .bind (.asks (asks_usersCall trivial)) fun u => ?_
  cases u with
  | none => exact .throw _
  | some u =>
    refine .bind (.lift _) fun matched => ?_
    dsimp only
    split
    · exact .throw_bind _ _
    refine .bind (.lift _) fun _ => .bind (.asks (asks_newSalt trivial)) fun salt => ?_
    refine .bind (.asks (asks_usersCall trivial)) fun changed => ?_
    split
    · exact .throw_bind _ _
    refine .bind (.asks (Sessions.neutral_deleteAll _)) fun ended => ?_
    refine .bind (.clear (.user u.id)) fun _ => ?_
    exact .asks (Asks.bind (asks_publish trivial) fun _ => asks_pure _)

/-! ## Administration -/

namespace UserAdmin

theorem consults_require (c : Caller) (permission : Permission) :
    Consults (require s c permission) :=
  .bind (Authorization.consults_authorize _ _ _) fun _ => .pure _

theorem consults_get (c : Caller) (user : UserId) : Consults (get s c user) := by
  refine .bind (consults_require _ _) fun _ => .bind (.asks (asks_usersCall trivial)) fun u => ?_
  cases u with
  | none => exact .throw _
  | some u => exact .pure _

theorem consults_list (c : Caller) (filter : UserFilter) (page : PageRequest) :
    Consults (list s c filter page) :=
  .bind (consults_require _ _) fun _ => .asks (asks_usersCall trivial)

end UserAdmin

namespace RoleAdmin

theorem consults_requireManage (c : Caller) : Consults (requireManage s c) :=
  .bind (Authorization.consults_authorize _ _ _) fun _ => .pure _

theorem consults_list (c : Caller) (role : Role) : Consults (list s c role) :=
  .bind (consults_requireManage c) fun _ => .rolePermissions _ _

theorem consults_invalidate (role : Role) : Consults (invalidate role) :=
  .bind (.clear (.role role)) fun _ =>
    .asks (Asks.bind (asks_publish trivial) fun _ => asks_pure _)

end RoleAdmin

/-! ## Events -/

/-- Handlers clear entries and delete sessions, and do no more. -/
theorem Invalidator.consults_handle (i : Invalidator) (e : Event) : Consults (i.handle e) := by
  cases i <;> cases e
  case userFacts.userChanged user => exact .clear (.user user)
  case userFacts.userDeleted user => exact .clear (.user user)
  case sessions.userDeleted user =>
    exact .asks (Asks.bind (Sessions.neutral_deleteAll user) fun _ => asks_pure _)
  case rolePermissions.roleChanged name =>
    rw [handle]
    split
    · exact .clear (.role _)
    · exact .throw _
  all_goals exact .pure _

end SessionAuth
