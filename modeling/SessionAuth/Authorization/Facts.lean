import SessionAuth.Environment
import SessionAuth.Keys
import SessionAuth.Settings.Basic

/-!
# Cached facts

The facts of users and the permissions of roles are read through the cache.  The repositories are
right and the cache is only faster: where it fails, or keeps a text that is no value, the repository
is asked, and a failure to write or to clear an entry goes unnoticed.
-/

set_option autoImplicit false

namespace SessionAuth
namespace Authorization

open Environment

/-- How long cached answers are kept, in seconds. -/
structure CacheTtls where
  facts : Nat
  permissions : Nat
  deriving DecidableEq, Repr

def CacheTtls.ofSettings (s : CacheSettings) : CacheTtls :=
  ⟨s.userFactsTtlSeconds.toNat, s.rolePermissionsTtlSeconds.toNat⟩

/-- Runs a program whose failure does not matter. -/
def bestEffort (p : UseCase Unit) : UseCase Unit := do
  let _ ← p.attempt

/-- The value that the cache keeps under a key, if it answers with one. -/
def cached? {α : Type} (d : Json.Decoder α) (key : String) : UseCase (Option α) := do
  match ← (cache (Cache.getJson d key)).attempt with
  | .ok found => pure found
  | .error _ => pure none

/-- The facts of a user. -/
def userFacts (ttls : CacheTtls) (user : UserId) : UseCase Facts := do
  let key := Keys.userFacts user.toText
  match ← cached? Json.Decode.facts key with
  | some facts => pure facts
  | none =>
    match ← users (UserRepository.call (.findById user)) with
    | none => throw (.userWithIdMissing user)
    | some u =>
      bestEffort (cache (Cache.setJson key u.facts.toJson (ttls.facts * nanosPerSecond)))
      pure u.facts

/-- The permissions of a role. -/
def rolePermissions (ttls : CacheTtls) (role : Role) : UseCase (List Permission) := do
  let key := Keys.rolePermissions role.name
  match ← cached? Json.Decode.permissions key with
  | some permissions => pure permissions
  | none =>
    let permissions ← grants (Grants.call (.ofRole role))
    bestEffort (cache (Cache.setJson key (Permission.listToJson permissions)
      (ttls.permissions * nanosPerSecond)))
    pure permissions

/-- Forgets the cached facts of a user. -/
def clearUser (user : UserId) : UseCase Unit :=
  bestEffort (cache (Cache.call (.delete (Keys.userFacts user.toText))))

/-- Forgets the cached permissions of a role. -/
def clearRole (role : Role) : UseCase Unit :=
  bestEffort (cache (Cache.call (.delete (Keys.rolePermissions role.name))))

/-! ## Decisions -/

/-- The facts of a user whose account can be used. -/
def checkStatus (ttls : CacheTtls) (user : UserId) : UseCase Facts := do
  match ← (userFacts ttls user).attempt with
  | .error e => throw (if e.kind = .notFound then .accountGone else e)
  | .ok facts =>
    match facts.status with
    | .active => pure facts
    | .inactive => throw .notActivated
    | .suspended => throw .suspended

/-- The facts of a user who holds a permission. -/
def authorize (ttls : CacheTtls) (user : UserId) (required : Permission) : UseCase Facts := do
  let facts ← checkStatus ttls user
  let held ← rolePermissions ttls facts.role
  if held.any (·.grants required) then pure facts else throw (.permissionMissing required)

end Authorization
end SessionAuth
