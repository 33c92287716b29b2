import SessionAuth.Authorization.Invalidation
import SessionAuth.Proofs.Program.Contract
import SessionAuth.UseCase.Auth
import SessionAuth.UseCase.RoleAdmin
import SessionAuth.UseCase.UserAdmin

/-!
# What use cases ask

For each part of a use case, the questions that it may ask, whatever it is answered.  They are given
by a property of questions, so that a caller who wants to know that a part does no harm has to look
at the questions that do.
-/

set_option autoImplicit false

namespace SessionAuth

open Environment Fallible

variable {P : Question → Prop}

/-! ## Sessions -/

namespace Sessions

theorem asks_hasJti {jti : String} (h : P (.sessions (.call (.hasJti jti)))) :
    Asks P (hasJti jti) := by
  rw [hasJti]
  split
  · exact asks_pure _
  · exact asks_call h

theorem asks_isActive {user : UserId} {id : String} (hget : P (.sessions (.call (.get id))))
    (hjti : ∀ jti, P (.sessions (.call (.hasJti jti)))) : Asks P (isActive user id) := by
  refine Asks.bind (asks_call hget) fun found => ?_
  cases found with
  | none => exact asks_pure _
  | some session =>
    dsimp only
    split
    · exact asks_hasJti (hjti _)
    · exact asks_pure _

theorem asks_deleteIds {ids : List String} (h : P (.sessions (.call (.delete ids)))) :
    Asks P (deleteIds ids) := by
  rw [deleteIds]
  split
  · exact asks_pure _
  · exact asks_call h

theorem asks_delete {d : Deletion} (hlist : P (.sessions (.call (.listByUser d.userId))))
    (hdelete : ∀ ids, P (.sessions (.call (.delete ids)))) : Asks P (delete d) :=
  Asks.bind (asks_call hlist) fun _ => asks_deleteIds (hdelete _)

theorem asks_deleteAll {user : UserId} (hlist : P (.sessions (.call (.listByUser user))))
    (hdelete : ∀ ids, P (.sessions (.call (.delete ids))))
    (hsweep : P (.sessions (.call (.sweepUser user)))) : Asks P (deleteAll user) := by
  refine Asks.bind (asks_call hlist) fun _ => Asks.bind (asks_deleteIds (hdelete _)) fun _ => ?_
  exact Asks.bind (asks_call hsweep) fun _ => asks_pure _

/-- A session is opened only with a refresh token that has an id, and with the labels at hand. -/
theorem asks_openSession {ttl : Nat} {o : Opening} (hnow : P .now) (hid : P .newId)
    (hcreate : ∀ (session : Session) ttls, session.currentJti.isEmpty = false →
      session.ip = o.ip → session.device = o.device →
        P (.sessions (.call (.create session ttls)))) : Asks P (openSession ttl o) := by
  rw [openSession]
  split
  · exact asks_throw_bind _ _
  rename_i hjti
  refine Asks.bind (asks_now hnow) fun now => Asks.bind (asks_lift _) fun t => ?_
  refine Asks.bind (asks_newId hid) fun id => ?_
  refine Asks.bind (asks_call (hcreate _ _ ?_ rfl rfl)) fun _ => asks_pure _
  simpa using hjti

/-- A session is carried on only with a refresh token that has an id, and with the labels at
hand. -/
theorem asks_renew {ttl : Nat} {r : Renewal} (hnow : P .now)
    (hrotate : ∀ x : Rotation, x.newJti.isEmpty = false → x.ip = r.ip → x.device = r.device →
      P (.sessions (.call (.rotate x)))) :
    Asks P (renew ttl r) := by
  rw [renew]
  split
  · exact asks_throw_bind _ _
  rename_i hjti
  refine Asks.bind (asks_now hnow) fun now => Asks.bind (asks_lift _) fun t => ?_
  refine asks_call (hrotate _ ?_ rfl rfl)
  simp only [Bool.or_eq_true, not_or, Bool.not_eq_true] at hjti
  exact hjti.2

end Sessions

/-! ## Cached facts -/

namespace Authorization

theorem asks_bestEffort {p : UseCase Unit} (h : Asks P p) : Asks P (bestEffort p) :=
  Asks.bind (Asks.attempt h) fun _ => asks_pure _

theorem asks_cached? {α : Type} {d : Json.Decoder α} {key : String}
    (h : P (.cache (.get key))) : Asks P (cached? d key) := by
  refine Asks.bind (Asks.attempt (asks_getJson h)) fun r => ?_
  cases r <;> exact asks_pure _

theorem asks_clearUser {user : UserId} (h : P (.cache (.delete (Keys.userFacts user.toText)))) :
    Asks P (clearUser user) :=
  asks_bestEffort (asks_cacheCall h)

theorem asks_clearRole {role : Role} (h : P (.cache (.delete (Keys.rolePermissions role.name)))) :
    Asks P (clearRole role) :=
  asks_bestEffort (asks_cacheCall h)

theorem asks_userFacts {ttls : CacheTtls} {user : UserId}
    (hget : P (.cache (.get (Keys.userFacts user.toText)))) (hfind : P (.users (.findById user)))
    (hset : ∀ text nanos, P (.cache (.set (Keys.userFacts user.toText) text nanos))) :
    Asks P (userFacts ttls user) := by
  refine Asks.bind (asks_cached? hget) fun found => ?_
  cases found with
  | some facts => exact asks_pure _
  | none =>
    refine Asks.bind (asks_usersCall hfind) fun u => ?_
    cases u with
    | none => exact asks_throw _
    | some u => exact Asks.bind (asks_bestEffort (asks_cacheCall (hset _ _))) fun _ => asks_pure _

theorem asks_rolePermissions {ttls : CacheTtls} {role : Role}
    (hget : P (.cache (.get (Keys.rolePermissions role.name)))) (hof : P (.grants (.ofRole role)))
    (hset : ∀ text nanos, P (.cache (.set (Keys.rolePermissions role.name) text nanos))) :
    Asks P (rolePermissions ttls role) := by
  refine Asks.bind (asks_cached? hget) fun found => ?_
  cases found with
  | some permissions => exact asks_pure _
  | none =>
    refine Asks.bind (asks_grantsCall hof) fun permissions => ?_
    exact Asks.bind (asks_bestEffort (asks_cacheCall (hset _ _))) fun _ => asks_pure _

/-- Checking a status asks no more than reading the facts. -/
theorem asks_checkStatus {ttls : CacheTtls} {user : UserId} (h : Asks P (userFacts ttls user)) :
    Asks P (checkStatus ttls user) := by
  refine Asks.bind (Asks.attempt h) fun r => ?_
  cases r with
  | error e => exact asks_throw _
  | ok facts =>
    dsimp only
    split
    · exact asks_pure _
    · exact asks_throw _
    · exact asks_throw _

/-- A decision asks for the facts of the user and for what a role holds. -/
theorem asks_authorize {ttls : CacheTtls} {user : UserId} {required : Permission}
    (hfacts : Asks P (userFacts ttls user)) (hheld : ∀ role, Asks P (rolePermissions ttls role)) :
    Asks P (authorize ttls user required) := by
  refine Asks.bind (asks_checkStatus hfacts) fun facts => Asks.bind (hheld _) fun held => ?_
  split
  · exact asks_pure _
  · exact asks_throw _

end Authorization

/-! ## Logins -/

namespace Auth

variable (s : Setup)

theorem asks_verifyCredentials {email password : String}
    (h : P (.users (.findByEmail email))) : Asks P (verifyCredentials email password) := by
  refine Asks.bind (asks_usersCall h) fun u => ?_
  cases u with
  | none => exact asks_throw _
  | some u =>
    refine Asks.bind (asks_lift _) fun matched => ?_
    cases matched
    · exact asks_throw _
    · exact asks_pure _

theorem asks_issueRefresh {user : UserId} (hid : P .newId) (hnow : P .now) :
    Asks P (issueRefresh s user) :=
  Asks.bind (asks_newId hid) fun _ => Asks.bind (asks_now hnow) fun _ => asks_lift _

theorem asks_completePair {user : UserId} {session : String} {refresh : Codec.Issued}
    (hid : P .newId) (hnow : P .now) : Asks P (completePair s user session refresh) := by
  refine Asks.bind (asks_newId hid) fun jti => Asks.bind (asks_now hnow) fun now => ?_
  exact Asks.bind (asks_lift _) fun access => asks_pure _

end Auth

/-! ## Administration -/

namespace UserAdmin

variable {s : Setup} {c : Caller} {user : UserId} {α : Type}

theorem asks_invalidate {event : Event} (hclear : P (.cache (.delete (Keys.userFacts user.toText))))
    (hpublish : P (.publish event)) : Asks P (invalidate user event) :=
  Asks.bind (Authorization.asks_clearUser hclear) fun _ =>
    Asks.bind (asks_publish hpublish) fun _ => asks_pure _

/-- What comes after a change of an account is asked if there is such an account. -/
theorem asks_change {p : UseCase Bool} {k : UseCase α} (hp : Asks P p) (hk : Asks P k) :
    Asks P (p >>= fun there => if !there then throw .userMissing else k) := by
  refine Asks.bind hp fun there => ?_
  cases there with
  | false => exact asks_throw _
  | true => exact hk

theorem asks_changeRole {role : Role} (hrequire : Asks P (require s c .userChangeRole))
    (hset : P (.users (.setRole user role)))
    (hinvalidate : Asks P (invalidate user (.userChanged user))) :
    Asks P (changeRole s c user role) :=
  Asks.bind hrequire fun _ => asks_change (asks_usersCall hset) hinvalidate

theorem asks_changeStatus {status : Status} (hrequire : Asks P (require s c .userChangeStatus))
    (hset : P (.users (.setStatus user status)))
    (hinvalidate : Asks P (invalidate user (.userChanged user)))
    (hsessions : Asks P (Sessions.deleteAll user)) : Asks P (changeStatus s c user status) := by
  refine Asks.bind hrequire fun _ => ?_
  dsimp only
  split
  · exact asks_throw_bind _ _
  refine asks_change (asks_usersCall hset) (Asks.bind hinvalidate fun _ => ?_)
  split
  · exact Asks.bind hsessions fun _ => asks_pure _
  · exact asks_pure _

theorem asks_delete (hrequire : Asks P (require s c .userDelete))
    (hdelete : P (.users (.delete user)))
    (hinvalidate : Asks P (invalidate user (.userDeleted user))) : Asks P (delete s c user) := by
  refine Asks.bind hrequire fun _ => ?_
  dsimp only
  split
  · exact asks_throw_bind _ _
  · exact asks_change (asks_usersCall hdelete) hinvalidate

end UserAdmin

namespace RoleAdmin

variable {s : Setup} {c : Caller} {role : Role}

theorem asks_invalidate (hclear : P (.cache (.delete (Keys.rolePermissions role.name))))
    (hpublish : P (.publish (.roleChanged role.name))) : Asks P (invalidate role) :=
  Asks.bind (Authorization.asks_clearRole hclear) fun _ =>
    Asks.bind (asks_publish hpublish) fun _ => asks_pure _

/-- Permissions are granted and revoked in the same way. -/
theorem asks_change {change : UseCase Bool} (hrequire : Asks P (requireManage s c))
    (hchange : Asks P change) (hinvalidate : Asks P (invalidate role)) : Asks P do
      requireManage s c
      let changed ← change
      if changed then invalidate role
      return changed := by
  refine Asks.bind hrequire fun _ => Asks.bind hchange fun changed => ?_
  dsimp only
  split
  · exact Asks.bind hinvalidate fun _ => asks_pure _
  · exact asks_pure _

end RoleAdmin
end SessionAuth
