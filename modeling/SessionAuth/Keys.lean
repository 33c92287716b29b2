import SessionAuth.User.Role
import SessionAuth.Uuid

/-!
# Keys of stored entries

Sessions and cached facts are stored under keys that begin with the name of their family.  The
prefix of a deployment is put in front elsewhere.
-/

set_option autoImplicit false

namespace SessionAuth
namespace Keys

/-- The record of a session. -/
def session (id : String) : String := "session:id:" ++ id

/-- The session that the id of a refresh token carries on. -/
def jti (id : String) : String := "session:jti:" ++ id

/-- The beginning of the keys of the sets of sessions. -/
def userSessionsFamily : String := "session:user:"

/-- The set of the sessions of a user. -/
def userSessions (user : String) : String := userSessionsFamily ++ user

/-- The pattern that the keys of all such sets match. -/
def userSessionsPattern : String := "session:user:*"

/-- The facts of a user. -/
def userFacts (user : String) : String := "authz:user:" ++ user

/-- The permissions of a role. -/
def rolePermissions (role : String) : String := "authz:role:" ++ role

end Keys
end SessionAuth
