import SessionAuth.Permission
import SessionAuth.Text.Decimal
import SessionAuth.Token.Kind
import SessionAuth.Uuid

/-!
# Errors

An `Error` is a cause.  `Error.kind` sorts the causes into the eleven kinds that callers tell apart,
and `Error.message` gives each its wording.  Kinds that are `isInternal` say that the service itself
failed; their messages are not shown to clients.
-/

set_option autoImplicit false

namespace SessionAuth

open Text

/-- What callers tell apart. -/
inductive ErrorKind where
  | invalidInput
  | unauthorized
  | tokenExpired
  | forbidden
  | notFound
  | conflict
  | internal
  | database
  | cache
  | configuration
  | serialization
  deriving DecidableEq, Repr, Inhabited

namespace ErrorKind

def all : List ErrorKind :=
  [invalidInput, unauthorized, tokenExpired, forbidden, notFound, conflict, internal, database,
    cache, configuration, serialization]

/-- The kind as it stands in front of messages. -/
def code : ErrorKind → String
  | invalidInput => "INVALID_INPUT"
  | unauthorized => "UNAUTHORIZED"
  | tokenExpired => "TOKEN_EXPIRED"
  | forbidden => "FORBIDDEN"
  | notFound => "NOT_FOUND"
  | conflict => "CONFLICT"
  | internal => "INTERNAL"
  | database => "DATABASE"
  | cache => "CACHE"
  | configuration => "CONFIGURATION"
  | serialization => "SERIALIZATION"

/-- The kind as it is written in JSON. -/
def name : ErrorKind → String
  | invalidInput => "InvalidInput"
  | unauthorized => "Unauthorized"
  | tokenExpired => "TokenExpired"
  | forbidden => "Forbidden"
  | notFound => "NotFound"
  | conflict => "Conflict"
  | internal => "Internal"
  | database => "Database"
  | cache => "Cache"
  | configuration => "Configuration"
  | serialization => "Serialization"

/-- The kinds by their names in JSON. -/
def byName : List (String × ErrorKind) := all.map fun k => (k.name, k)

/-- Whether the service itself failed. -/
def isInternal : ErrorKind → Bool
  | internal | database | cache | configuration | serialization => true
  | _ => false

end ErrorKind

/-- What is wrong with a token that is presented. -/
inductive TokenFault where
  /-- The text has not three parts. -/
  | format
  /-- A part is not the Base64 form of anything. -/
  | base64
  /-- A part has not the JSON value it should have. -/
  | json
  | algorithm
  | signature
  | issuer
  | audience
  /-- The token is to be used later. -/
  | early
  | missingClaim (name : String)
  | wrongKind (expected : TokenKind)
  | noSubject
  | noId
  /-- An access token without a session. -/
  | noSession
  /-- A refresh token with a session. -/
  | unwantedSession
  /-- The token ends before it was issued. -/
  | noLifetime
  deriving DecidableEq, Repr

def TokenFault.message : TokenFault → String
  | format => "Invalid token format"
  | base64 => "Token validation failed: Base64 error"
  | json => "Token validation failed: JSON error"
  | algorithm => "Unexpected signing algorithm"
  | signature => "Invalid token signature"
  | issuer => "Invalid token issuer"
  | audience => "Invalid token audience"
  | early => "Token is not valid yet"
  | missingClaim name => "Token validation failed: Missing required claim: " ++ name
  | wrongKind expected => "Invalid token type: expected " ++ expected.name ++ " token"
  | noSubject => "Token is missing its subject"
  | noId => "Token is missing its id"
  | noSession => "Access token is not bound to a session"
  | unwantedSession => "Refresh token must not carry a session id"
  | noLifetime => "Token expires before it was issued"

/-- What is wrong with the body of a request. -/
inductive BodyFault where
  /-- The content type is not JSON. -/
  | contentType
  /-- The body is longer than requests may be. -/
  | tooLong
  /-- The body is no JSON. -/
  | malformed
  /-- The body is JSON of another shape. -/
  | mismatch
  /-- The body breaks rules, each of which has a line. -/
  | violations (lines : List String)
  deriving DecidableEq, Repr

def BodyFault.message : BodyFault → String
  | contentType => "Expected request with `Content-Type: application/json`"
  | tooLong => "Failed to buffer the request body: length limit exceeded"
  | malformed => "Failed to parse the request body as JSON"
  | mismatch => "Failed to deserialize the JSON body into the target type"
  | violations lines => "Validation failed: " ++ "\n".intercalate lines

/-- What is wrong with a configuration. -/
inductive ConfigFault where
  | secretTooShort
  | tokenTtlZero
  | sessionTtlZero
  | ttlTooLong (maxHours : Nat)
  /-- A source of the configuration cannot be read. -/
  | unreadable
  /-- The merged configuration has not the shape it should have. -/
  | mismatch
  | noRedisClient
  | unknownCacheProvider (name : String)
  | databaseUrl
  deriving DecidableEq, Repr

def ConfigFault.message : ConfigFault → String
  | secretTooShort => "auth.jwt_secret must be at least 32 bytes"
  | tokenTtlZero => "token TTLs must be positive"
  | sessionTtlZero => "session.session_ttl_hours must be positive"
  | ttlTooLong maxHours =>
    "session and refresh TTLs must not exceed " ++ writeNat maxHours ++ " hours"
  | unreadable => "Failed to build config"
  | mismatch => "Failed to deserialize config"
  | noRedisClient => "Redis cache provider selected but no Redis client is available"
  | unknownCacheProvider name =>
    "Unknown cache provider: '" ++ name ++ "'. Supported: memory, redis"
  | databaseUrl => "Invalid database URL"

/-- The tasks of the database that can fail. -/
inductive DatabaseTask where
  | connect
  | migrate
  | checkHealth
  | findUserById
  | findUserByEmail
  | createUser
  | countUsers
  | listUsers
  | updatePassword
  | updateRole
  | updateStatus
  | deleteUser
  | loadPermissions
  | grantPermission
  | revokePermission
  deriving DecidableEq, Repr

def DatabaseTask.failure : DatabaseTask → String
  | connect => "Failed to connect to database"
  | migrate => "Failed to run migrations"
  | checkHealth => "Health check failed"
  | findUserById => "Failed to find user by id"
  | findUserByEmail => "Failed to find user by email"
  | createUser => "Failed to create user"
  | countUsers => "Failed to count users"
  | listUsers => "Failed to list users"
  | updatePassword => "Failed to update password"
  | updateRole => "Failed to update user role"
  | updateStatus => "Failed to update user status"
  | deleteUser => "Failed to delete user"
  | loadPermissions => "Failed to load role permissions"
  | grantPermission => "Failed to grant permission"
  | revokePermission => "Failed to revoke permission"

/-- The backends that can be out of reach. -/
inductive Backend where
  | users
  | cache
  | sessions
  deriving DecidableEq, Repr

/-- Why something was not done. -/
inductive Error where
  /-- An error whose kind and message are given. -/
  | other (kind : ErrorKind) (message : String)
  -- texts that name nothing
  | invalidPermission (text : String)
  | invalidRole (text : String)
  | invalidStatus (text : String)
  | invalidUserId (text : String)
  | unknownRoleInEvent (text : String)
  -- requests
  | body (fault : BodyFault)
  | query
  | authorizationHeader
  -- tokens
  | sessionIdMissing
  | subjectMissing
  | tokenIdMissing
  | lifetimeTooShort
  | token (fault : TokenFault)
  | tokenExpired
  -- passwords
  | passwordTooShort (least : Nat)
  | passwordTooWeak
  | passwordUnchanged
  | storedHashMalformed
  | hashNotComputable
  -- sessions
  | refreshTokenIdMissing
  | rotationIdsMissing
  | sessionTtlTooLong (seconds most : Nat)
  | ttlsNotPositive
  | ttlsNotPositiveAt (session jti : Int)
  | refreshTokenSpent
  | refreshTokenRevoked
  | sessionRevoked
  -- accounts
  | credentialsMissing
  | invalidCredentials
  | emailMissing
  | emailTaken
  | wrongCurrentPassword
  | accountGone
  | notActivated
  | suspended
  | userMissing
  | userWithIdMissing (id : UserId)
  | permissionMissing (p : Permission)
  | nothingToRevoke
  | selfDeactivation
  | selfDeletion
  -- infrastructure
  | unreachable (backend : Backend)
  | database (task : DatabaseTask)
  | redisClient
  | redisFailed (operation : String)
  | redisTimedOut (operation : String) (millis : Nat)
  | config (fault : ConfigFault)
  /-- A text that should be the JSON form of a value is not; `reason` is there where the value has
  the right shape and is refused. -/
  | undecodable (reason : Option String)
  deriving DecidableEq

namespace Error

def kind : Error → ErrorKind
  | other kind _ => kind
  | invalidPermission _ | invalidRole _ | invalidStatus _ | invalidUserId _ | unknownRoleInEvent _
  | body _ | query | sessionIdMissing | subjectMissing | tokenIdMissing | lifetimeTooShort
  | passwordTooShort _ | passwordTooWeak | passwordUnchanged | refreshTokenIdMissing
  | rotationIdsMissing | sessionTtlTooLong _ _ | ttlsNotPositive | ttlsNotPositiveAt _ _
  | credentialsMissing | emailMissing | wrongCurrentPassword | nothingToRevoke | selfDeactivation
  | selfDeletion => .invalidInput
  | authorizationHeader | token _ | refreshTokenSpent | refreshTokenRevoked | sessionRevoked
  | invalidCredentials | accountGone => .unauthorized
  | tokenExpired => .tokenExpired
  | notActivated | suspended | permissionMissing _ => .forbidden
  | userMissing | userWithIdMissing _ => .notFound
  | emailTaken => .conflict
  | storedHashMalformed | hashNotComputable => .internal
  | unreachable .users | database _ => .database
  | unreachable .cache | unreachable .sessions | redisClient | redisFailed _ | redisTimedOut _ _ =>
    .cache
  | config _ => .configuration
  | undecodable _ => .serialization

def message : Error → String
  | other _ message => message
  | invalidPermission s =>
    "Invalid permission: '" ++ s ++ "'. Expected 'resource:action' or '" ++ fullAccessText ++ "'"
  | invalidRole s => "Invalid user role: '" ++ s ++ "'. Expected one of: client, operator, admin"
  | invalidStatus s =>
    "Invalid user status: '" ++ s ++ "'. Expected one of: inactive, active, suspended"
  | invalidUserId s => "Invalid user id: '" ++ s ++ "'"
  | unknownRoleInEvent s => "Unknown role in event: " ++ s
  | body fault => fault.message
  | query => "Failed to deserialize query string"
  | authorizationHeader => "Missing or malformed Authorization header"
  | sessionIdMissing => "access token requires a session id"
  | subjectMissing => "token subject must not be empty"
  | tokenIdMissing => "token id must not be empty"
  | lifetimeTooShort => "token lifetime must be at least one second"
  | token fault => fault.message
  | tokenExpired => "Token has expired"
  | passwordTooShort least =>
    "Password must be at least " ++ writeNat least ++ " characters long"
  | passwordTooWeak => "Password is too weak. Please use a longer or less predictable password"
  | passwordUnchanged => "New password must be different from the current password"
  | storedHashMalformed => "Stored password hash is malformed"
  | hashNotComputable => "Password verification failed"
  | refreshTokenIdMissing => "session requires a refresh token id"
  | rotationIdsMissing => "both JTIs are required for rotation"
  | sessionTtlTooLong seconds most =>
    "session TTL of " ++ writeNat seconds ++ "s exceeds the " ++ writeNat most ++ "s maximum"
  | ttlsNotPositive => "session and JTI TTLs must be positive"
  | ttlsNotPositiveAt session jti =>
    "session and JTI TTLs must be positive (session " ++ writeInt session ++ "s, jti " ++
      writeInt jti ++ "s)"
  | refreshTokenSpent => "Refresh token is invalid, expired, or already used"
  | refreshTokenRevoked => "Refresh token has been revoked or already used"
  | sessionRevoked => "Session has been revoked"
  | credentialsMissing => "Email and password are required"
  | invalidCredentials => "Invalid email or password"
  | emailMissing => "Email is required"
  | emailTaken => "Email already in use"
  | wrongCurrentPassword => "Current password is incorrect"
  | accountGone => "Account no longer exists"
  | notActivated => "Account is not activated"
  | suspended => "Account is suspended"
  | userMissing => "User not found"
  | userWithIdMissing id => "User " ++ id.toText ++ " not found"
  | permissionMissing p => "Missing permission: " ++ p.text
  | nothingToRevoke => "Provide session ids or set remove_others"
  | selfDeactivation => "Administrators cannot deactivate themselves"
  | selfDeletion => "Administrators cannot delete themselves"
  | unreachable .users | unreachable .cache => "connection refused"
  | unreachable .sessions => "session store unreachable"
  | database task => task.failure
  | redisClient => "Failed to create Redis client"
  | redisFailed operation => "Redis " ++ operation ++ " failed"
  | redisTimedOut operation millis =>
    "Redis " ++ operation ++ " timed out after " ++ writeNat millis ++ "ms"
  | config fault => fault.message
  | undecodable none => "JSON serialization error"
  | undecodable (some reason) => "JSON serialization error: " ++ reason

/-- An error with its kind in front. -/
def display (e : Error) : String := e.kind.code ++ ": " ++ e.message

end Error
end SessionAuth
