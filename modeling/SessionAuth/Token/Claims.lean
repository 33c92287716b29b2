import SessionAuth.User.Named
import SessionAuth.Crypto.Octets

/-!
# Claims

What a token says: whom it acts for, in which session, what it is for, and when it may be used.
-/

set_option autoImplicit false

namespace SessionAuth

/-- The issuer of all tokens. -/
def issuer : String := "authgate"

/-- The audience that all tokens have. -/
def audience : String := "api"

/-- What a token says.  Times are in seconds. -/
structure Claims where
  userId : UserId
  /-- The session of an access token; empty on refresh tokens. -/
  sessionId : String
  kind : TokenKind
  /-- The id of the token. -/
  jti : String
  issuer : String
  audiences : List String
  issuedAt : Int
  notBefore : Int
  expires : Int
  deriving DecidableEq

namespace Claims

/-- The time from which on the token has expired; where it is out of the calendar's range, the
earliest time of that range. -/
def expiresAt (c : Claims) : Timestamp := (Timestamp.ofSeconds? c.expires).getD .earliest

/-- The seconds until the token expires, zero once it has. -/
def remaining (c : Claims) (now : Timestamp) : Int := max (c.expires - now.seconds) 0

/-- Refuses claims that no token should have. -/
def check (c : Claims) : Except TokenFault Unit :=
  if c.userId.isNil then .error .noSubject
  else if c.jti.isEmpty then .error .noId
  else if c.kind = .access ∧ c.sessionId.isEmpty then .error .noSession
  else if c.kind = .refresh ∧ !c.sessionId.isEmpty then .error .unwantedSession
  else if c.expires ≤ c.issuedAt then .error .noLifetime
  else .ok ()

/-- The claims in JSON; an empty session is left out. -/
def toJson (c : Claims) : Json :=
  .obj ([("user_id", c.userId.toJson)] ++
    (if c.sessionId.isEmpty then [] else [("session_id", .str c.sessionId)]) ++
    [("token_type", .str c.kind.name), ("jti", .str c.jti), ("iss", .str c.issuer),
      ("aud", .arr (c.audiences.map .str)), ("iat", .int c.issuedAt), ("nbf", .int c.notBefore),
      ("exp", .int c.expires)])

end Claims

instance : Json.Encode Claims := ⟨Claims.toJson⟩

def Json.Decode.claims : Decoder Claims :=
  (Claims.mk <$> Record.required "user_id" uuid <*> Record.withDefault "session_id" string ""
    <*> Record.required "token_type" tokenKind <*> Record.required "jti" string
    <*> Record.required "iss" string <*> Record.required "aud" (list string)
    <*> Record.required "iat" int64 <*> Record.required "nbf" int64
    <*> Record.required "exp" int64).decode

end SessionAuth
