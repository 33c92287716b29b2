import SessionAuth.Permission.Grants
import SessionAuth.Postgres.Client

/-!
# The repository of permissions in PostgreSQL

A stored text that is no permission is skipped, so that one such row does not keep a role from being
used.
-/

set_option autoImplicit false

namespace SessionAuth
namespace Postgres

/-- The operation that answers a call to the repository. -/
def grantCall (pool : Pool) : (c : Grants.Call) → Fallible interface c.Answer
  | .ofRole role => pool.perform .loadPermissions ((·.filterMap Permission.ofText?) <$> fetchAll
      ⟨"SELECT permission FROM role_permissions WHERE role = $1 ORDER BY permission",
        [.text role.name]⟩ readText)
  | .grant role permission => pool.perform .grantPermission (execute
      ⟨"INSERT INTO role_permissions (role, permission) VALUES ($1, $2) ON CONFLICT DO NOTHING",
        [.text role.name, .text permission.text]⟩)
  | .revoke role permission => pool.perform .revokePermission (execute
      ⟨"DELETE FROM role_permissions WHERE role = $1 AND permission = $2",
        [.text role.name, .text permission.text]⟩)

/-- A program that uses a repository of permissions, with the repository in PostgreSQL. -/
def withGrants {α : Type} (pool : Pool) (p : Fallible Grants.interface α) : Fallible interface α :=
  .ofProgram (p.run.interpret fun c => (grantCall pool c).run)

end Postgres
end SessionAuth
