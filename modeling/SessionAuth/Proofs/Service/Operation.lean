import SessionAuth.Proofs.Authorization.Coherence
import SessionAuth.Proofs.UseCase.Consults

/-!
# The operations of the service

An `Operation` is a use case with its arguments.  Whatever operation a process runs, it leaves the
process settled: `Operation.settles` shows it, one operation after the other.  Most of them only
consult the cache (`Consults`), for which there is one proof; those that change an account clear its
entry before they end.
-/

set_option autoImplicit false

namespace SessionAuth

open Environment Fallible Deployment

/-- What the service can be asked to do, with the type of the result. -/
inductive Operation : Type → Type where
  | login (input : Auth.Login) : Operation Auth.Tokens
  | refresh (input : Auth.Refresh) : Operation Auth.Tokens
  | authenticate (token : String) : Operation Caller
  | logout (c : Caller) : Operation Unit
  | profile (c : Caller) : Operation Auth.Profile
  | register (email password : String) : Operation User
  | changePassword (c : Caller) (current new : String) : Operation Nat
  | listSessions (c : Caller) : Operation (List SessionView)
  | revokeSessions (c : Caller) (ids : List String) (others : Bool) : Operation Nat
  | getUser (c : Caller) (user : UserId) : Operation User
  | createUser (c : Caller) (account : Account.NewAccount) : Operation User
  | listUsers (c : Caller) (filter : UserFilter) (page : PageRequest) : Operation (Page User)
  | changeRole (c : Caller) (user : UserId) (role : Role) : Operation Unit
  | changeStatus (c : Caller) (user : UserId) (status : Status) : Operation Unit
  | deleteUser (c : Caller) (user : UserId) : Operation Unit
  | listPermissions (c : Caller) (role : Role) : Operation (List Permission)
  | grant (c : Caller) (role : Role) (permission : Permission) : Operation Bool
  | revoke (c : Caller) (role : Role) (permission : Permission) : Operation Bool

namespace Operation

/-- The use case of an operation. -/
def body (s : Setup) {α : Type} : Operation α → UseCase α
  | login input => Auth.login s input
  | refresh input => Auth.refresh s input
  | authenticate token => Auth.authenticate s token
  | logout c => Auth.logout c
  | profile c => Auth.profile c
  | register email password => Account.register s email password
  | changePassword c current new => Account.changePassword s c current new
  | listSessions c => OwnSessions.list s c
  | revokeSessions c ids others => OwnSessions.revoke s c ids others
  | getUser c user => UserAdmin.get s c user
  | createUser c account => UserAdmin.create s c account
  | listUsers c filter page => UserAdmin.list s c filter page
  | changeRole c user role => UserAdmin.changeRole s c user role
  | changeStatus c user status => UserAdmin.changeStatus s c user status
  | deleteUser c user => UserAdmin.delete s c user
  | listPermissions c role => RoleAdmin.list s c role
  | grant c role permission => RoleAdmin.grant s c role permission
  | revoke c role permission => RoleAdmin.revoke s c role permission

/-- The tokens that the result of an operation gives out. -/
def tokens {α : Type} : Operation α → α → List Auth.Tokens
  | login _, t => [t]
  | refresh _, t => [t]
  | _, _ => []

end Operation

/-! ## Operations that only consult the cache -/

/-- A neutral question is clean. -/
theorem IsNeutral.isClean {q : Question} (h : IsNeutral q) : IsClean q := by
  cases q with
  | users c => cases c <;> first | exact fun _ => rfl | exact h.elim
  | cache c => exact h.elim
  | sessions q =>
    cases q with
    | call c => cases c <;> exact h
    | _ => trivial
  | _ => trivial

section Ready

variable {s : Setup} {f : Supply} {α : Type}

theorem preserves_ready {p : UseCase α} (h : Asks IsClean p) :
    Preserves (serve f) Ready p :=
  Preserves.of_asks h fun q _ hq hd => hd.serve q hq

theorem preserves_settled {p : UseCase α} (h : Asks IsClean p) :
    Preserves (serve f) (Settled none) p :=
  Preserves.of_asks h fun q _ hq hd => hd.serve q hq

/-- What clean questions and reading facts keep is kept by all programs that only consult the
cache. -/
theorem Consults.preserves {Inv : Deployment → Prop}
    (hclean : ∀ q d, IsClean q → Inv d → Inv (serve f q d).2)
    (hfacts : ∀ ttls user, Preserves (serve f) Inv (Authorization.userFacts ttls user))
    {p : UseCase α} (h : Consults p) : Preserves (serve f) Inv p := by
  induction h with
  | asks h => exact Preserves.of_asks h fun q d hq => hclean q d hq.isClean
  | userFacts ttls user => exact hfacts ttls user
  | rolePermissions ttls role =>
    have hasks : Asks IsClean (Authorization.rolePermissions ttls role) :=
      Authorization.asks_rolePermissions trivial trivial fun _ _ _ h =>
        Keys.userFacts_ne_rolePermissions _ _ h.symm
    exact Preserves.of_asks hasks hclean
  | clear subject =>
    have hasks : Asks IsClean subject.clear := by
      cases subject with
      | user => exact Authorization.asks_clearUser trivial
      | role => exact Authorization.asks_clearRole trivial
    exact Preserves.of_asks hasks hclean
  | attempt _ ih => exact ih.attempt
  | bind _ _ ihp ihf => exact ihp.bind ihf

theorem Consults.preserves_ready {p : UseCase α} (h : Consults p) :
    Preserves (serve f) Ready p :=
  h.preserves (fun q _ hq hd => hd.serve q hq) fun ttls user =>
    ⟨fun d hd => ((Authorization.triple_userFacts ttls user _ _).run d
      ⟨hd.toSettled, rfl, rfl⟩).1.ready (UserTable.facts?_eq_none_iff.1 hd.fresh)⟩

theorem Consults.preserves_settled {p : UseCase α} (h : Consults p) :
    Preserves (serve f) (Settled none) p :=
  h.preserves (fun q _ hq hd => hd.serve q hq) fun ttls user =>
    ⟨fun d hd => ((Authorization.triple_userFacts ttls user _ _).run d
      ⟨hd, rfl, rfl⟩).1.toSettled⟩

/-- A change of what a role holds, which is published if there was one. -/
theorem RoleAdmin.preserves_change (c : Caller) (role : Role) {change : UseCase Bool}
    (hchange : Asks IsClean change) : Preserves (serve f) Ready do
      requireManage s c
      let changed ← change
      if changed then invalidate role
      return changed := by
  refine Preserves.bind (consults_requireManage c).preserves_ready fun _ => ?_
  refine Preserves.bind (SessionAuth.preserves_ready hchange) fun changed => ?_
  dsimp only
  split
  · exact Preserves.bind (consults_invalidate role).preserves_ready fun _ => Preserves.pure _
  · exact Preserves.pure _

/-! ## Operations that change accounts -/

/-- What is left after an operation that may use up the id of the next user. -/
abbrev Settles (f : Supply) (p : UseCase α) : Prop :=
  Triple (serve f) Ready p fun _ => Settled none

theorem Settles.of_preserves {p : UseCase α} (h : Preserves (serve f) Ready p) : Settles f p :=
  h.mono (fun _ hd => hd) fun _ _ hd => hd.toSettled

theorem Settles.of_consults {p : UseCase α} (h : Consults p) : Settles f p :=
  .of_preserves h.preserves_ready

theorem Settles.bind {β : Type} {p : UseCase β} {k : β → UseCase α}
    (hp : Preserves (serve f) Ready p) (hk : ∀ b, Settles f (k b)) : Settles f (p >>= k) :=
  Preserves.triple_bind hp hk fun _ _ hd => hd.toSettled

theorem Settles.throw_bind {β : Type} {e : Error} {k : β → UseCase α} :
    Settles f (throw e >>= k) :=
  Triple.throw_bind fun _ hd => hd.toSettled

theorem Account.settles_create (a : NewAccount) : Settles f (create s a) := by
  simp only [create]
  split
  · exact Settles.throw_bind
  refine Settles.bind (Preserves.lift _) fun _ => ?_
  refine Settles.bind (preserves_ready (asks_newSalt trivial)) fun salt => ?_
  exact ⟨fun d hd => hd.toSettled.serve_users_of_absent (f := f) rfl hd.fresh⟩

/-- The entry of a user who was changed is cleared. -/
theorem UserAdmin.triple_invalidate (user : UserId) (event : Event) :
    Triple (serve f) (Settled (some user)) (invalidate user event) fun _ => Settled none := by
  refine Triple.bind (R := fun _ => Settled none) ⟨fun d hd => ?_⟩ (fun _ => ?_) fun _ _ hd => hd
  · have hcleared : (serve f (.cache (.delete (Keys.userFacts user.toText))) d).2.Settled
        (some user) := hd.serve_cache _ nofun
    rw [Authorization.clearUser, Authorization.runOn_bestEffort, runOn_cache]
    refine Settled.of_absent hcleared ?_
    rw [hd.toInReach.serve_cache (c := .delete _) nofun]
    simp [MemoryCache.answer, Table.get?_erase]
  · exact preserves_settled (Asks.bind (asks_publish trivial) fun _ => asks_pure _)

/-- An operation that changes an account settles the process if it goes on to clear the entry; where
there is no such account, nothing has changed. -/
theorem UserAdmin.settles_change {p : UseCase Bool} {c : UserRepository.Call} {user : UserId}
    {k : UseCase α} (hc : ∀ t : UserTable, t.target? c = some user)
    (hp : ∀ d : Deployment, d.InReach →
      runOn (serve f) p d = (.ok (d.users.users.get? user).isSome, (serve f (.users c) d).2))
    (hk : Triple (serve f) (Settled (some user)) k fun _ => Settled none) :
    Settles f (p >>= fun there => if !there then throw .userMissing else k) := by
  refine ⟨fun d hd => ?_⟩
  rw [runOn_bind, hp d hd.toInReach]
  cases hu : d.users.users.get? user with
  | some u => exact hk.run _ (hc d.users ▸ hd.toSettled.serve_users c)
  | none =>
    exact hd.toSettled.serve_users_of_absent (hc _) (UserTable.facts?_eq_none_iff.2 hu)

theorem UserAdmin.settles_changeRole (c : Caller) (user : UserId) (role : Role) :
    Settles f (changeRole s c user role) := by
  refine Settles.bind (consults_require _ _).preserves_ready fun _ => ?_
  refine settles_change (c := .setRole user role) (fun _ => rfl) (fun d hd => ?_)
    (triple_invalidate user _)
  rw [runOn_users, hd.serve_users]
  rfl

theorem UserAdmin.settles_changeStatus (c : Caller) (user : UserId) (status : Status) :
    Settles f (changeStatus s c user status) := by
  refine Settles.bind (consults_require _ _).preserves_ready fun _ => ?_
  dsimp only
  split
  · exact Settles.throw_bind
  refine settles_change (c := .setStatus user status) (fun _ => rfl) (fun d hd => ?_) ?_
  · rw [runOn_users, hd.serve_users]
    rfl
  · refine Triple.bind (triple_invalidate user _) (fun _ => ?_) fun _ _ hd => hd
    split
    · refine Consults.preserves_settled (.asks ?_)
      exact Asks.bind (Sessions.neutral_deleteAll user) fun _ => asks_pure _
    · exact Preserves.pure _

theorem UserAdmin.settles_delete (c : Caller) (user : UserId) :
    Settles f (delete s c user) := by
  refine Settles.bind (consults_require _ _).preserves_ready fun _ => ?_
  dsimp only
  split
  · exact Settles.throw_bind
  refine settles_change (c := .delete user) (fun _ => rfl) (fun d hd => ?_)
    (triple_invalidate user _)
  rw [runOn_users, hd.serve_users]
  rfl

/-- **The cache stays right.**  Whatever operation a process runs, it is settled after it. -/
theorem Operation.settles (op : Operation α) : Settles f (op.body s) := by
  unfold Operation.body
  cases op with
  | login => exact .of_consults (Auth.consults_login _)
  | refresh => exact .of_consults (Auth.consults_refresh _)
  | authenticate => exact .of_consults (Auth.consults_authenticate _)
  | logout => exact .of_consults (Auth.consults_logout _)
  | profile => exact .of_consults (Auth.consults_profile _)
  | register => exact Account.settles_create _
  | changePassword => exact .of_consults (Account.consults_changePassword ..)
  | listSessions => exact .of_consults (OwnSessions.consults_list _)
  | revokeSessions => exact .of_consults (OwnSessions.consults_revoke _ _ _)
  | getUser => exact .of_consults (UserAdmin.consults_get _ _)
  | createUser =>
    exact Settles.bind (UserAdmin.consults_require _ _).preserves_ready fun _ =>
      Account.settles_create _
  | listUsers => exact .of_consults (UserAdmin.consults_list _ _ _)
  | changeRole => exact UserAdmin.settles_changeRole _ _ _
  | changeStatus => exact UserAdmin.settles_changeStatus _ _ _
  | deleteUser => exact UserAdmin.settles_delete _ _
  | listPermissions => exact .of_consults (RoleAdmin.consults_list _ _)
  | grant | revoke =>
    exact .of_preserves (RoleAdmin.preserves_change _ _ (asks_grantsCall trivial))

end Ready
end SessionAuth
