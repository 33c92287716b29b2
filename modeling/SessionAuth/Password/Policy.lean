import SessionAuth.Error
import SessionAuth.Password.Strength

/-!
# The rules for new passwords

A new password has a least number of characters, and takes many guesses to find.
-/

set_option autoImplicit false

namespace SessionAuth
namespace Password

/-- Refuses a new password that is too short or too weak; `known` are texts by which its owner is
known. -/
def checkNew (least : UInt64) (password : String) (known : List String) : Except Error Unit :=
  if password.length < least.toNat then .error (.passwordTooShort least.toNat)
  else if guesses password known < strongGuesses then .error .passwordTooWeak
  else .ok ()

/-- Refuses a new password that is the current one. -/
def checkChanged (current new : String) : Except Error Unit :=
  if current == new then .error .passwordUnchanged else .ok ()

end Password
end SessionAuth
