import SessionAuth.Password.Hasher
import SessionAuth.Password.Policy
import SessionAuth.Session.Lifecycle
import SessionAuth.Text.Blank
import SessionAuth.UseCase.Setup

/-!
# One's own account

Anyone can register an account, which cannot be used before it is activated.  Changing the password
ends all sessions of the account.
-/

set_option autoImplicit false

namespace SessionAuth
namespace Account

open Environment Text

/-- A new account. -/
structure NewAccount where
  email : String
  password : String
  role : Role
  status : Status

/-- Creates an account whose password keeps the rules. -/
def create (s : Setup) (a : NewAccount) : UseCase User := do
  let email := trim a.email
  if email.isEmpty then throw .emailMissing
  Password.checkNew s.passwordMinLength a.password [email]
  let hash := Password.hashNew (← newSalt) a.password
  users (UserRepository.call (.create ⟨email, hash, a.role, a.status⟩))

/-- Registers an account. -/
def register (s : Setup) (email password : String) : UseCase User :=
  create s ⟨email, password, .client, .inactive⟩

/-- Changes the password of the caller; the answer is the number of sessions that ended. -/
def changePassword (s : Setup) (c : Caller) (current new : String) : UseCase Nat := do
  Password.checkChanged current new
  match ← users (UserRepository.call (.findById c.userId)) with
  | none => throw .userMissing
  | some user =>
    if !(← Password.verify current user.passwordHash) then throw .wrongCurrentPassword
    Password.checkNew s.passwordMinLength new [user.email]
    let hash := Password.hashNew (← newSalt) new
    if !(← users (UserRepository.call (.setPassword user.id hash))) then throw .userMissing
    let ended ← Sessions.deleteAll user.id
    Authorization.clearUser user.id
    let _ ← publish (.userChanged user.id)
    return ended

end Account
end SessionAuth
