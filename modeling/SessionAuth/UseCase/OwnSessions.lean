import SessionAuth.Session.Lifecycle
import SessionAuth.UseCase.Setup

/-!
# One's own sessions

Callers with the permissions for it list their sessions and end them.
-/

set_option autoImplicit false

namespace SessionAuth
namespace OwnSessions

/-- The sessions of the caller. -/
def list (s : Setup) (c : Caller) : UseCase (List SessionView) := do
  let _ ← Authorization.authorize s.cacheTtls c.userId .sessionRead
  Sessions.views c.userId c.sessionId

/-- Ends the given sessions of the caller, or all others; the answer is how many. -/
def revoke (s : Setup) (c : Caller) (ids : List String) (others : Bool) : UseCase Nat := do
  if !others && ids.isEmpty then throw .nothingToRevoke
  let _ ← Authorization.authorize s.cacheTtls c.userId .sessionRevoke
  Sessions.delete {
    userId := c.userId
    current := c.sessionId
    targets := ids
    others := others }

end OwnSessions
end SessionAuth
