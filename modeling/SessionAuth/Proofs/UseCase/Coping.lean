import SessionAuth.Authorization.Invalidation
import SessionAuth.Proofs.Service.Blame

/-!
# Use cases cope with what they are asked

For each use case, and first for its parts, that it leaves a healthy process healthy and fails only
because of the request.  Most parts may do what they like; two need to know what they got.  A
password is compared with a hash that was made for some password, and so can be compared with; and a
hash that is stored is made with a salt that can be read back.
-/

set_option autoImplicit false

namespace SessionAuth

open Environment Fallible Deployment Text

variable {f : Supply} {s : Setup}

/-! ## Checks -/

theorem Codec.blameless_issue (c : Codec) (now : Timestamp) (kind : TokenKind) (user : UserId)
    (session jti : String) (ttl : Nat) :
    Blameless (c.issue now kind user session jti ttl) := by
  rw [issue]
  exact .ite rfl (.ite rfl (.ite rfl trivial))

theorem Codec.blameless_issueAccess (c : Codec) (now : Timestamp) (user : UserId)
    (session jti : String) (ttl : Nat) :
    Blameless (c.issueAccess now user session jti ttl) := by
  rw [issueAccess]
  exact .ite rfl (c.blameless_issue _ _ _ _ _ _)

theorem Codec.blameless_validate (c : Codec) (now : Int) (claims : Claims) (checkExpiry : Bool) :
    Blameless (c.validate now claims checkExpiry) := by
  rw [validate]
  exact .ite rfl (.ite rfl (.ite rfl (.ite rfl (.ite rfl (.ite rfl trivial)))))

theorem Codec.blameless_parse (c : Codec) (now : Timestamp) (token : String)
    (expected : TokenKind) : Blameless (c.parse now token expected) := by
  have hvalidate := c.blameless_validate now.seconds
  rw [parse]
  split
  · exact rfl
  · split
    · -- a token that has expired may be wrong in other respects, too
      split
      · exact (hvalidate _ _).isPublic ‹_›
      · exact rfl
    · exact (hvalidate _ _).isPublic ‹_›
    · refine .ite rfl ?_
      split
      · exact rfl
      · exact trivial

theorem Sessions.blameless_lifetimes (ttl : Nat) (now jtiExpiresAt : Timestamp) :
    Blameless (lifetimes ttl now jtiExpiresAt) := by
  rw [lifetimes]
  exact .ite rfl (.ite trivial rfl)

theorem Password.blameless_checkNew (least : UInt64) (password : String) (known : List String) :
    Blameless (checkNew least password known) := by
  rw [checkNew]
  exact .ite rfl (.ite rfl trivial)

theorem Password.blameless_checkChanged (current new : String) :
    Blameless (checkChanged current new) := by
  rw [checkChanged]
  exact .ite rfl trivial

theorem Password.IsProduced.blameless_verify {stored : String} (h : IsProduced stored)
    (password : String) : Blameless (verify password stored) := by
  obtain ⟨matched, hverify⟩ := (exists_verify_eq_ok_iff password).2 h.isWellFormed
  rw [hverify]
  exact trivial

theorem Auth.blameless_checkUsable (user : User) : Blameless (checkUsable user) := by
  rw [checkUsable]
  split
  · exact trivial
  · exact rfl
  · exact rfl

/-! ## Sessions -/

namespace Sessions

theorem copes_hasJti (jti : String) : Copes f (hasJti jti) := by
  rw [hasJti]
  split
  · exact CopesWith.pure trivial
  · exact copes_sessions _

theorem copes_isActive (user : UserId) (id : String) : Copes f (isActive user id) := by
  refine Copes.bind (copes_sessions (.get id)) fun found => ?_
  cases found with
  | none => exact CopesWith.pure trivial
  | some session =>
    dsimp only
    split
    · exact copes_hasJti _
    · exact CopesWith.pure trivial

theorem copes_views (user : UserId) (current : String) : Copes f (views user current) :=
  Copes.bind (copes_sessions (.listByUser user)) fun _ => CopesWith.pure trivial

theorem copes_deleteIds (ids : List String) : Copes f (deleteIds ids) := by
  rw [deleteIds]
  split
  · exact CopesWith.pure trivial
  · exact copes_sessions _

theorem copes_delete (x : Deletion) : Copes f (delete x) :=
  Copes.bind (copes_sessions (.listByUser x.userId)) fun _ => copes_deleteIds _

theorem copes_deleteAll (user : UserId) : Copes f (deleteAll user) := by
  refine Copes.bind (copes_sessions (.listByUser user)) fun _ => ?_
  refine Copes.bind (copes_deleteIds _) fun _ => ?_
  exact Copes.bind (copes_sessions (.sweepUser user)) fun _ => CopesWith.pure trivial

theorem copes_openSession (ttl : Nat) (o : Opening) : Copes f (openSession ttl o) := by
  rw [openSession]
  split
  · exact CopesWith.throw_bind rfl
  refine Copes.bind copes_now fun now => ?_
  refine Copes.bind (CopesWith.lift (blameless_lifetimes _ _ _)) fun t => ?_
  refine Copes.bind copes_newId fun id => ?_
  exact Copes.bind (copes_sessions _) fun _ => CopesWith.pure trivial

theorem copes_renew (ttl : Nat) (r : Renewal) : Copes f (renew ttl r) := by
  rw [renew]
  split
  · exact CopesWith.throw_bind rfl
  refine Copes.bind copes_now fun now => ?_
  refine Copes.bind (CopesWith.lift (blameless_lifetimes _ _ _)) fun t => ?_
  exact copes_sessions _

end Sessions

/-! ## Permissions -/

namespace Authorization

theorem copes_bestEffort {p : UseCase Unit} (hp : Asks KeepsHashes p) :
    Copes f (bestEffort p) :=
  Copes.bind (copes_attempt hp) fun _ => CopesWith.pure trivial

theorem copes_cached? {α : Type} (d : Json.Decoder α) (key : String) :
    Copes f (cached? d key) := by
  refine Copes.bind (copes_attempt (asks_getJson trivial)) fun r => ?_
  cases r <;> exact CopesWith.pure trivial

theorem copes_userFacts (ttls : CacheTtls) (user : UserId) : Copes f (userFacts ttls user) := by
  refine Copes.bind (copes_cached? _ _) fun found => ?_
  cases found with
  | some facts => exact CopesWith.pure trivial
  | none =>
    refine Copes.bind (copes_users (c := .findById user) trivial) fun u => ?_
    cases u with
    | none => exact CopesWith.throw rfl
    | some u =>
      refine Copes.bind (copes_bestEffort (asks_cacheCall trivial)) fun _ => ?_
      exact CopesWith.pure trivial

theorem copes_rolePermissions (ttls : CacheTtls) (role : Role) :
    Copes f (rolePermissions ttls role) := by
  refine Copes.bind (copes_cached? _ _) fun found => ?_
  cases found with
  | some permissions => exact CopesWith.pure trivial
  | none =>
    refine Copes.bind (copes_grants (.ofRole role)) fun permissions => ?_
    refine Copes.bind (copes_bestEffort (asks_cacheCall trivial)) fun _ => ?_
    exact CopesWith.pure trivial

theorem copes_clearUser (user : UserId) : Copes f (clearUser user) :=
  copes_bestEffort (asks_cacheCall trivial)

theorem copes_clearRole (role : Role) : Copes f (clearRole role) :=
  copes_bestEffort (asks_cacheCall trivial)

theorem copes_checkStatus (ttls : CacheTtls) (user : UserId) :
    Copes f (checkStatus ttls user) := by
  refine CopesWith.bind (copes_userFacts ttls user).attempt fun r hr => ?_
  cases r with
  | error e =>
    refine CopesWith.throw ?_
    split
    · exact rfl
    · exact hr
  | ok facts =>
    dsimp only
    split
    · exact CopesWith.pure trivial
    · exact CopesWith.throw rfl
    · exact CopesWith.throw rfl

theorem copes_authorize (ttls : CacheTtls) (user : UserId) (required : Permission) :
    Copes f (authorize ttls user required) := by
  refine Copes.bind (copes_checkStatus _ _) fun facts => ?_
  refine Copes.bind (copes_rolePermissions _ _) fun held => ?_
  split
  · exact CopesWith.pure trivial
  · exact CopesWith.throw rfl

end Authorization

/-! ## Logins -/

namespace Auth

theorem copes_issueRefresh (user : UserId) : Copes f (issueRefresh s user) := by
  refine Copes.bind copes_newId fun jti => Copes.bind copes_now fun now => ?_
  exact CopesWith.lift (Codec.blameless_issue _ _ _ _ _ _ _)

theorem copes_completePair (user : UserId) (session : String) (refresh : Codec.Issued) :
    Copes f (completePair s user session refresh) := by
  refine Copes.bind copes_newId fun jti => Copes.bind copes_now fun now => ?_
  refine Copes.bind (CopesWith.lift (Codec.blameless_issueAccess _ _ _ _ _ _)) fun access => ?_
  exact CopesWith.pure trivial

theorem copes_verifyCredentials (email password : String) :
    Copes f (verifyCredentials email password) := by
  refine CopesWith.bind (copes_findByEmail email) fun found hfound => ?_
  cases found with
  | none => exact CopesWith.throw rfl
  | some user =>
    refine Copes.bind (CopesWith.lift ((hfound user rfl).blameless_verify password))
      fun matched => ?_
    split
    · exact CopesWith.pure trivial
    · exact CopesWith.throw rfl

theorem copes_login (input : Login) : Copes f (login s input) := by
  rw [login]
  dsimp only
  split
  · exact CopesWith.throw_bind rfl
  refine Copes.bind (copes_verifyCredentials _ _) fun user => ?_
  refine Copes.bind (CopesWith.lift (blameless_checkUsable user)) fun _ => ?_
  refine Copes.bind (copes_issueRefresh _) fun refresh => ?_
  exact Copes.bind (Sessions.copes_openSession _ _) fun session => copes_completePair _ _ _

theorem copes_refresh (input : Refresh) : Copes f (refresh s input) := by
  refine Copes.bind copes_now fun now => ?_
  refine Copes.bind (CopesWith.lift (Codec.blameless_parse _ _ _ _)) fun claims => ?_
  refine Copes.bind (Sessions.copes_hasJti _) fun used => ?_
  dsimp only
  split
  · exact CopesWith.throw_bind rfl
  refine Copes.bind (Authorization.copes_checkStatus _ _) fun _ => ?_
  refine Copes.bind (copes_issueRefresh _) fun refresh => ?_
  exact Copes.bind (Sessions.copes_renew _ _) fun session => copes_completePair _ _ _

theorem copes_authenticate (token : String) : Copes f (authenticate s token) := by
  refine Copes.bind copes_now fun now => ?_
  refine Copes.bind (CopesWith.lift (Codec.blameless_parse _ _ _ _)) fun claims => ?_
  refine Copes.bind (Sessions.copes_isActive _ _) fun active => ?_
  dsimp only
  split
  · exact CopesWith.throw_bind rfl
  exact Copes.bind (Authorization.copes_checkStatus _ _) fun _ => CopesWith.pure trivial

theorem copes_logout (c : Caller) : Copes f (logout c) :=
  Copes.bind (Sessions.copes_delete _) fun _ => CopesWith.pure trivial

theorem copes_profile (c : Caller) : Copes f (profile c) := by
  refine Copes.bind (copes_users (c := .findById c.userId) trivial) fun u => ?_
  cases u with
  | none => exact CopesWith.throw rfl
  | some u => exact CopesWith.pure trivial

end Auth

/-! ## Accounts -/

namespace Account

variable (hsalts : ∀ n, Password.IsSalt (f.salts n))

include hsalts

theorem copes_create (a : NewAccount) : Copes f (create s a) := by
  rw [create]
  dsimp only
  split
  · exact CopesWith.throw_bind rfl
  refine Copes.bind (CopesWith.lift (Password.blameless_checkNew _ _ _)) fun _ => ?_
  refine CopesWith.bind (copes_newSalt hsalts) fun salt hsalt => ?_
  exact copes_users (c := .create _) ⟨salt, a.password, hsalt, rfl⟩

theorem copes_changePassword (c : Caller) (current new : String) :
    Copes f (changePassword s c current new) := by
  refine Copes.bind (CopesWith.lift (Password.blameless_checkChanged _ _)) fun _ => ?_
  refine CopesWith.bind (copes_findById c.userId) fun found hfound => ?_
  cases found with
  | none => exact CopesWith.throw rfl
  | some user =>
    refine Copes.bind (CopesWith.lift ((hfound user rfl).blameless_verify current))
      fun matched => ?_
    dsimp only
    split
    · exact CopesWith.throw_bind rfl
    refine Copes.bind (CopesWith.lift (Password.blameless_checkNew _ _ _)) fun _ => ?_
    refine CopesWith.bind (copes_newSalt hsalts) fun salt hsalt => ?_
    refine Copes.bind (copes_users (c := .setPassword _ _) ⟨salt, new, hsalt, rfl⟩)
      fun there => ?_
    split
    · exact CopesWith.throw_bind rfl
    refine Copes.bind (Sessions.copes_deleteAll _) fun ended => ?_
    refine Copes.bind (Authorization.copes_clearUser _) fun _ => ?_
    exact Copes.bind (copes_publish _) fun _ => CopesWith.pure trivial

end Account

/-! ## Own sessions -/

namespace OwnSessions

theorem copes_list (c : Caller) : Copes f (list s c) :=
  Copes.bind (Authorization.copes_authorize _ _ _) fun _ => Sessions.copes_views _ _

theorem copes_revoke (c : Caller) (ids : List String) (others : Bool) :
    Copes f (revoke s c ids others) := by
  rw [revoke]
  split
  · exact CopesWith.throw_bind rfl
  exact Copes.bind (Authorization.copes_authorize _ _ _) fun _ => Sessions.copes_delete _

end OwnSessions

/-! ## Administration -/

namespace UserAdmin

theorem copes_require (c : Caller) (permission : Permission) :
    Copes f (require s c permission) :=
  Copes.bind (Authorization.copes_authorize _ _ _) fun _ => CopesWith.pure trivial

theorem copes_invalidate (user : UserId) (event : Event) : Copes f (invalidate user event) :=
  Copes.bind (Authorization.copes_clearUser user) fun _ =>
    Copes.bind (copes_publish event) fun _ => CopesWith.pure trivial

theorem copes_get (c : Caller) (user : UserId) : Copes f (get s c user) := by
  refine Copes.bind (copes_require _ _) fun _ => ?_
  refine Copes.bind (copes_users (c := .findById user) trivial) fun u => ?_
  cases u with
  | none => exact CopesWith.throw rfl
  | some u => exact CopesWith.pure trivial

theorem copes_create (hsalts : ∀ n, Password.IsSalt (f.salts n)) (c : Caller)
    (a : Account.NewAccount) : Copes f (create s c a) :=
  Copes.bind (copes_require _ _) fun _ => Account.copes_create hsalts a

theorem copes_list (c : Caller) (filter : UserFilter) (page : PageRequest) :
    Copes f (list s c filter page) :=
  Copes.bind (copes_require _ _) fun _ => copes_users (c := .list filter page) trivial

/-- A change is refused where there is no account, and otherwise goes on. -/
theorem copes_change {c : UserRepository.Call} (hc : KeepsHashes (.users c))
    (there : c.Answer → Bool) {k : UseCase Unit} (hk : Copes f k) :
    Copes f (do
      if !(there (← users (UserRepository.call c))) then throw .userMissing
      k) := by
  refine Copes.bind (copes_users hc) fun answer => ?_
  dsimp only
  split
  · exact CopesWith.throw_bind rfl
  · exact hk

theorem copes_changeRole (c : Caller) (user : UserId) (role : Role) :
    Copes f (changeRole s c user role) :=
  Copes.bind (copes_require _ _) fun _ =>
    copes_change (c := .setRole user role) trivial id (copes_invalidate _ _)

theorem copes_changeStatus (c : Caller) (user : UserId) (status : Status) :
    Copes f (changeStatus s c user status) := by
  refine Copes.bind (copes_require _ _) fun _ => ?_
  dsimp only
  split
  · exact CopesWith.throw_bind rfl
  refine copes_change (c := .setStatus user status) trivial id ?_
  refine Copes.bind (copes_invalidate _ _) fun _ => ?_
  split
  · exact Copes.bind (Sessions.copes_deleteAll _) fun _ => CopesWith.pure trivial
  · exact CopesWith.pure trivial

theorem copes_delete (c : Caller) (user : UserId) : Copes f (delete s c user) := by
  refine Copes.bind (copes_require _ _) fun _ => ?_
  dsimp only
  split
  · exact CopesWith.throw_bind rfl
  exact copes_change (c := .delete user) trivial id (copes_invalidate _ _)

end UserAdmin

namespace RoleAdmin

theorem copes_requireManage (c : Caller) : Copes f (requireManage s c) :=
  UserAdmin.copes_require c .roleManage

theorem copes_list (c : Caller) (role : Role) : Copes f (list s c role) :=
  Copes.bind (copes_requireManage c) fun _ => Authorization.copes_rolePermissions _ _

/-- Permissions are granted and revoked in the same way. -/
theorem copes_change (c : Caller) (role : Role) {change : UseCase Bool}
    (hchange : Copes f change) : Copes f (do
      requireManage s c
      let changed ← change
      if changed then invalidate role
      return changed) := by
  refine Copes.bind (copes_requireManage c) fun _ => Copes.bind hchange fun changed => ?_
  dsimp only
  split
  · refine Copes.bind (Copes.bind (Authorization.copes_clearRole role) fun _ => ?_) fun _ =>
      CopesWith.pure trivial
    exact Copes.bind (copes_publish _) fun _ => CopesWith.pure trivial
  · exact CopesWith.pure trivial

theorem copes_grant (c : Caller) (role : Role) (permission : Permission) :
    Copes f (grant s c role permission) :=
  copes_change c role (copes_grants (.grant role permission))

theorem copes_revoke (c : Caller) (role : Role) (permission : Permission) :
    Copes f (revoke s c role permission) :=
  copes_change c role (copes_grants (.revoke role permission))

end RoleAdmin

/-! ## Handlers of events -/

theorem Invalidator.copes_handle (handler : Invalidator) (event : Event) :
    Copes f (handler.handle event) := by
  cases handler with
  | userFacts =>
    cases event with
    | roleChanged name => exact CopesWith.pure trivial
    | userChanged user | userDeleted user => exact Authorization.copes_clearUser user
  | rolePermissions =>
    cases event with
    | roleChanged name =>
      rw [handle]
      split
      · exact Authorization.copes_clearRole _
      · exact CopesWith.throw rfl
    | userChanged | userDeleted => exact CopesWith.pure trivial
  | sessions =>
    cases event with
    | userDeleted user =>
      exact Copes.bind (Sessions.copes_deleteAll user) fun _ => CopesWith.pure trivial
    | userChanged | roleChanged => exact CopesWith.pure trivial

end SessionAuth
