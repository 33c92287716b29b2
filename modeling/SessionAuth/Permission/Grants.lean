import SessionAuth.Collection.Table
import SessionAuth.Fallible
import SessionAuth.User.Role

/-!
# The permissions of roles

`Grants.Call` lists what the repository of permissions is asked.  `GrantTable` is such a repository
in memory, which counts how often the permissions of a role are looked up.
-/

set_option autoImplicit false

namespace SessionAuth

namespace Grants

/-- What the repository of permissions is asked. -/
inductive Call where
  | ofRole (role : Role)
  | grant (role : Role) (permission : Permission)
  | revoke (role : Role) (permission : Permission)

/-- The answers of a repository that is in reach.  The truth values say whether something
changed. -/
abbrev Call.Answer : Call → Type
  | ofRole _ => List Permission
  | grant _ _ => Bool
  | revoke _ _ => Bool

/-- The repository of permissions, as those who use it see it. -/
abbrev interface : Interface := ⟨Call, fun c => Except Error c.Answer⟩

/-- The program that makes one call. -/
def call (c : Call) : Fallible interface c.Answer := .ofProgram (.question (I := interface) c)

end Grants

/-- A repository of permissions in memory. -/
structure GrantTable where
  grants : Table Role (SortedSet Permission)
  /-- How often the permissions of a role were looked up. -/
  lookups : Nat

namespace GrantTable

def empty : GrantTable := ⟨.empty, 0⟩

/-- The permissions of a role. -/
def ofRole (t : GrantTable) (role : Role) : SortedSet Permission :=
  (t.grants.get? role).getD .empty

/-- Gives a role exactly the given permissions. -/
def assign (t : GrantTable) (role : Role) (permissions : SortedSet Permission) : GrantTable :=
  { t with grants := t.grants.set role permissions }

/-- The answer to a call, and the repository after it. -/
def answer : Program.Server Grants.interface GrantTable
  | .ofRole role, t => (.ok (t.ofRole role).toList, { t with lookups := t.lookups + 1 })
  | .grant role permission, t =>
    (.ok (!(t.ofRole role).toList.contains permission),
      t.assign role ((t.ofRole role).insert permission))
  | .revoke role permission, t =>
    (.ok ((t.ofRole role).toList.contains permission),
      t.assign role ((t.ofRole role).erase permission))

end GrantTable
end SessionAuth
