import SessionAuth.UseCase.Setup

/-!
# The administration of roles

Callers with the permission for it look at the permissions of roles and change them.  A change is
published, and the cached permissions of the role are cleared at once.
-/

set_option autoImplicit false

namespace SessionAuth
namespace RoleAdmin

open Environment

/-- Refuses a caller who must not manage roles. -/
def requireManage (s : Setup) (c : Caller) : UseCase Unit := do
  let _ ← Authorization.authorize s.cacheTtls c.userId .roleManage

/-- Clears what is cached of a role and publishes that it changed. -/
def invalidate (role : Role) : UseCase Unit := do
  Authorization.clearRole role
  let _ ← publish (.roleChanged role.name)

/-- The permissions of a role. -/
def list (s : Setup) (c : Caller) (role : Role) : UseCase (List Permission) := do
  requireManage s c
  Authorization.rolePermissions s.cacheTtls role

/-- Gives a role a permission; the answer says whether the role did not hold it. -/
def grant (s : Setup) (c : Caller) (role : Role) (permission : Permission) : UseCase Bool := do
  requireManage s c
  let changed ← grants (Grants.call (.grant role permission))
  if changed then invalidate role
  return changed

/-- Takes a permission from a role; the answer says whether the role held it. -/
def revoke (s : Setup) (c : Caller) (role : Role) (permission : Permission) : UseCase Bool := do
  requireManage s c
  let changed ← grants (Grants.call (.revoke role permission))
  if changed then invalidate role
  return changed

end RoleAdmin
end SessionAuth
