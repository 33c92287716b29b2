import SessionAuth.UseCase.Account

/-!
# The administration of users

Each use case asks for a permission of the caller first.  A change is published, and the cached
facts of the user are cleared at once.
-/

set_option autoImplicit false

namespace SessionAuth
namespace UserAdmin

open Environment

/-- Refuses a caller without a permission. -/
def require (s : Setup) (c : Caller) (permission : Permission) : UseCase Unit := do
  let _ ← Authorization.authorize s.cacheTtls c.userId permission

/-- Clears what is cached of a user and publishes an event about the user. -/
def invalidate (user : UserId) (event : Event) : UseCase Unit := do
  Authorization.clearUser user
  let _ ← publish event

/-- A user. -/
def get (s : Setup) (c : Caller) (user : UserId) : UseCase User := do
  require s c .userRead
  match ← users (UserRepository.call (.findById user)) with
  | some u => return u
  | none => throw .userMissing

/-- Creates an account for someone. -/
def create (s : Setup) (c : Caller) (a : Account.NewAccount) : UseCase User := do
  require s c .userWrite
  Account.create s a

/-- A page of the selected users. -/
def list (s : Setup) (c : Caller) (filter : UserFilter) (page : PageRequest) :
    UseCase (Page User) := do
  require s c .userRead
  users (UserRepository.call (.list filter page))

/-- Changes the role of a user. -/
def changeRole (s : Setup) (c : Caller) (user : UserId) (role : Role) : UseCase Unit := do
  require s c .userChangeRole
  if !(← users (UserRepository.call (.setRole user role))) then throw .userMissing
  invalidate user (.userChanged user)

/-- Changes the status of a user; the sessions of a user who can no longer log in end. -/
def changeStatus (s : Setup) (c : Caller) (user : UserId) (status : Status) : UseCase Unit := do
  require s c .userChangeStatus
  if user = c.userId ∧ status ≠ .active then throw .selfDeactivation
  if !(← users (UserRepository.call (.setStatus user status))) then throw .userMissing
  invalidate user (.userChanged user)
  if !status.canAuthenticate then
    let _ ← Sessions.deleteAll user

/-- Deletes a user. -/
def delete (s : Setup) (c : Caller) (user : UserId) : UseCase Unit := do
  require s c .userDelete
  if user = c.userId then throw .selfDeletion
  if !(← users (UserRepository.call (.delete user))) then throw .userMissing
  invalidate user (.userDeleted user)

end UserAdmin
end SessionAuth
