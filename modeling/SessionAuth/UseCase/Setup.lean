import SessionAuth.Authorization.Facts
import SessionAuth.Token.Codec

/-!
# What use cases depend on

The `Setup` holds the part of the settings that use cases look at, and a `Caller` is who a use case
is done for, as an access token tells.
-/

set_option autoImplicit false

namespace SessionAuth

/-- The settings of use cases. -/
structure Setup where
  codec : Codec
  /-- The least number of characters of a new password. -/
  passwordMinLength : UInt64
  /-- The lifetime of sessions, in seconds. -/
  sessionTtl : Nat
  cacheTtls : Authorization.CacheTtls
  deriving DecidableEq

def Setup.ofSettings (s : Settings) : Setup where
  codec := .ofSettings s.auth
  passwordMinLength := s.auth.passwordMinLength
  sessionTtl := s.session.sessionTtl
  cacheTtls := .ofSettings s.cache

/-- Who a use case is done for. -/
structure Caller where
  userId : UserId
  /-- The session of the access token. -/
  sessionId : String
  /-- The id of the access token. -/
  jti : String
  role : Role
  deriving DecidableEq

/-! ## JSON -/

def Caller.toJson (c : Caller) : Json :=
  .obj [("user_id", c.userId.toJson), ("session_id", .str c.sessionId), ("jti", .str c.jti),
    ("role", c.role.toJson)]

instance : Json.Encode Caller := ⟨Caller.toJson⟩

def Json.Decode.caller : Decoder Caller :=
  (Caller.mk <$> Record.required "user_id" uuid <*> Record.required "session_id" string
    <*> Record.required "jti" string <*> Record.required "role" role).decode

end SessionAuth
