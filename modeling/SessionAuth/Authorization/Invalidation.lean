import SessionAuth.Authorization.Facts
import SessionAuth.Event.Registry
import SessionAuth.Session.Lifecycle

/-!
# What events invalidate

Three handlers answer to events: one forgets the facts of a user who was changed or deleted, one
forgets the permissions of a role that was changed, and one deletes the sessions of a user who was
deleted.
-/

set_option autoImplicit false

namespace SessionAuth

/-- The handlers of events. -/
inductive Invalidator where
  | userFacts
  | rolePermissions
  | sessions
  deriving DecidableEq, Repr

namespace Invalidator

/-- What a handler does on an event. -/
def handle : Invalidator → Event → UseCase Unit
  | userFacts, .userChanged user => Authorization.clearUser user
  | userFacts, .userDeleted user => Authorization.clearUser user
  | userFacts, .roleChanged _ => pure ()
  | rolePermissions, .roleChanged name =>
    match Role.ofText? name with
    | some role => Authorization.clearRole role
    | none => throw (.unknownRoleInEvent name)
  | rolePermissions, _ => pure ()
  | sessions, .userDeleted user => do
    let _ ← Sessions.deleteAll user
  | sessions, _ => pure ()

/-- The handlers with their kinds of events. -/
def registry : Registry Invalidator :=
  Registry.empty
    |>.register .userChanged userFacts
    |>.register .userDeleted userFacts
    |>.register .roleChanged rolePermissions
    |>.register .userDeleted sessions

end Invalidator
end SessionAuth
