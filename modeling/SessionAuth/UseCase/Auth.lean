import SessionAuth.Password.Hasher
import SessionAuth.Session.Lifecycle
import SessionAuth.Text.Blank
import SessionAuth.UseCase.Setup

/-!
# Logging in and out

A login opens a session and gives out a pair of tokens.  The refresh token is exchanged for a new
pair, once; the access token is accepted as long as the session can be carried on.
-/

set_option autoImplicit false

namespace SessionAuth
namespace Auth

open Environment Text

/-- What a client logs in with. -/
structure Login where
  email : String
  password : String
  device : String
  ip : String

/-- What a client exchanges. -/
structure Refresh where
  refreshToken : String
  device : String
  ip : String

/-- A pair of tokens. -/
structure Tokens where
  accessToken : String
  accessExpiresAt : Timestamp
  refreshToken : String
  refreshExpiresAt : Timestamp
  sessionId : String
  deriving DecidableEq

/-- What a caller is shown of the own account. -/
structure Profile where
  userId : UserId
  email : String
  role : Role
  status : Status
  sessionId : String
  deriving DecidableEq

/-- A new refresh token, whose id is fresh. -/
def issueRefresh (s : Setup) (user : UserId) : UseCase Codec.Issued := do
  let jti ← newId
  s.codec.issueRefresh (← now) user jti s.codec.refreshTtl

/-- The pair of a refresh token and a new access token of the same session. -/
def completePair (s : Setup) (user : UserId) (session : String) (refresh : Codec.Issued) :
    UseCase Tokens := do
  let jti ← newId
  let access ← s.codec.issueAccess (← now) user session jti s.codec.accessTtl
  return {
    accessToken := access.token
    accessExpiresAt := access.claims.expiresAt
    refreshToken := refresh.token
    refreshExpiresAt := refresh.claims.expiresAt
    sessionId := session }

/-- The user with the given credentials.  That there is no such user, and that the password is
another one, are one and the same error. -/
def verifyCredentials (email password : String) : UseCase User := do
  match ← users (UserRepository.call (.findByEmail email)) with
  | none => throw .invalidCredentials
  | some user =>
    if ← Password.verify password user.passwordHash then return user
    else throw .invalidCredentials

/-- Refuses a user whose account cannot be used. -/
def checkUsable (user : User) : Except Error Unit :=
  match user.status with
  | .active => .ok ()
  | .inactive => .error .notActivated
  | .suspended => .error .suspended

/-- Opens a session for the owner of the credentials. -/
def login (s : Setup) (input : Login) : UseCase Tokens := do
  let email := trim input.email
  if email.isEmpty || input.password.isEmpty then throw .credentialsMissing
  let user ← verifyCredentials email input.password
  checkUsable user
  let refresh ← issueRefresh s user.id
  let session ← Sessions.openSession s.sessionTtl {
    userId := user.id
    jti := refresh.claims.jti
    jtiExpiresAt := refresh.claims.expiresAt
    ip := input.ip
    device := input.device }
  completePair s user.id session refresh

/-- Exchanges a refresh token for a new pair. -/
def refresh (s : Setup) (input : Refresh) : UseCase Tokens := do
  let claims ← s.codec.parse (← now) input.refreshToken .refresh
  if !(← Sessions.hasJti claims.jti) then throw .refreshTokenRevoked
  let _ ← Authorization.checkStatus s.cacheTtls claims.userId
  let refresh ← issueRefresh s claims.userId
  let session ← Sessions.renew s.sessionTtl {
    oldJti := claims.jti
    newJti := refresh.claims.jti
    jtiExpiresAt := refresh.claims.expiresAt
    ip := input.ip
    device := input.device }
  completePair s claims.userId session refresh

/-- The caller that an access token tells. -/
def authenticate (s : Setup) (token : String) : UseCase Caller := do
  let claims ← s.codec.parse (← now) token .access
  if !(← Sessions.isActive claims.userId claims.sessionId) then throw .sessionRevoked
  let facts ← Authorization.checkStatus s.cacheTtls claims.userId
  return ⟨claims.userId, claims.sessionId, claims.jti, facts.role⟩

/-- Deletes the session of the caller. -/
def logout (c : Caller) : UseCase Unit := do
  let _ ← Sessions.delete {
    userId := c.userId
    current := c.sessionId
    targets := [c.sessionId]
    others := false }

/-- The account of the caller. -/
def profile (c : Caller) : UseCase Profile := do
  match ← users (UserRepository.call (.findById c.userId)) with
  | none => throw .userMissing
  | some user => return ⟨user.id, user.email, user.role, user.status, c.sessionId⟩

/-! ## JSON -/

/-- How access tokens are shown with requests. -/
def tokenType : String := "Bearer"

def Tokens.toJson (t : Tokens) : Json :=
  .obj [("access_token", .str t.accessToken), ("access_expires_at", t.accessExpiresAt.toJson),
    ("refresh_token", .str t.refreshToken), ("refresh_expires_at", t.refreshExpiresAt.toJson),
    ("session_id", .str t.sessionId), ("token_type", .str tokenType)]

instance : Json.Encode Tokens := ⟨Tokens.toJson⟩

def Profile.toJson (p : Profile) : Json :=
  .obj [("user_id", p.userId.toJson), ("email", .str p.email), ("role", p.role.toJson),
    ("status", p.status.toJson), ("session_id", .str p.sessionId)]

instance : Json.Encode Profile := ⟨Profile.toJson⟩

end Auth
end SessionAuth
