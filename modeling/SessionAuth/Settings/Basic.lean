import SessionAuth.Error
import SessionAuth.Json.Encode

/-!
# Settings

The settings of the service, in sections.  `Settings.check` refuses settings with which the tokens
or sessions that the service gives out would be unusable.  Products of times saturate at the
greatest number of sixty-four bits.
-/

set_option autoImplicit false

namespace SessionAuth

/-- The HTTP server. -/
structure ServerSettings where
  host : String := "0.0.0.0"
  port : UInt16 := 8080
  shutdownGraceSeconds : UInt64 := 30
  /-- The origins whose pages may read answers; `*` stands for all of them. -/
  allowedOrigins : List String := ["*"]
  deriving DecidableEq

/-- The pool of connections to the database. -/
structure DatabaseSettings where
  url : String
  maxConnections : UInt32 := 20
  minConnections : UInt32 := 2
  connectTimeoutSeconds : UInt64 := 10
  idleTimeoutSeconds : UInt64 := 300
  deriving DecidableEq

/-- The Redis server, shared by cache and session store. -/
structure RedisSettings where
  url : String := "redis://localhost:6379"
  /-- What all keys begin with. -/
  keyPrefix : String := "authgate:"
  /-- How long one command may take. -/
  commandTimeoutMillis : UInt64 := 2000
  deriving DecidableEq

/-- The cache in memory. -/
structure MemoryCacheSettings where
  maxCapacity : UInt64 := 10000
  deriving DecidableEq

/-- The cache. -/
structure CacheSettings where
  /-- `memory` or `redis`. -/
  provider : String := "memory"
  userFactsTtlSeconds : UInt64 := 86400
  rolePermissionsTtlSeconds : UInt64 := 86400
  redis : RedisSettings := {}
  memory : MemoryCacheSettings := {}
  deriving DecidableEq

/-- Tokens and passwords. -/
structure AuthSettings where
  /-- The key of signatures. -/
  jwtSecret : String := "CHANGE_ME_IN_PRODUCTION"
  accessTtlMinutes : UInt64 := 15
  refreshTtlHours : UInt64 := 168
  /-- By how much clocks may differ when the times of a token are checked. -/
  leewaySeconds : UInt64 := 0
  /-- The least number of characters of a new password. -/
  passwordMinLength : UInt64 := 10
  deriving DecidableEq

/-- Sessions. -/
structure SessionSettings where
  /-- `redis` or `memory`. -/
  store : String := "redis"
  sessionTtlHours : UInt64 := 720
  sweepIntervalMinutes : UInt64 := 60
  deriving DecidableEq

/-- The handling of events. -/
structure EventSettings where
  handlerTimeoutSeconds : UInt64 := 10
  deriving DecidableEq

/-- The log. -/
structure LogSettings where
  level : String := "info"
  format : String := "json"
  deriving DecidableEq

/-- All settings. -/
structure Settings where
  server : ServerSettings := {}
  database : DatabaseSettings
  cache : CacheSettings := {}
  auth : AuthSettings
  session : SessionSettings := {}
  events : EventSettings := {}
  log : LogSettings := {}
  deriving DecidableEq

/-! ## Times -/

/-- A number of units in seconds, at most the greatest number of sixty-four bits. -/
def secondsOf (units : UInt64) (secondsPerUnit : Nat) : Nat :=
  min (units.toNat * secondsPerUnit) (UInt64.size - 1)

theorem le_secondsOf {units : UInt64} {perUnit : Nat} (h : units ≠ 0)
    (hper : perUnit < UInt64.size) : perUnit ≤ secondsOf units perUnit := by
  have hpos : 0 < units.toNat := Nat.pos_of_ne_zero fun hzero => h (UInt64.toNat_inj.1 hzero)
  have hmul : perUnit ≤ units.toNat * perUnit := Nat.le_mul_of_pos_left _ hpos
  rw [secondsOf]
  omega

theorem secondsOf_le {units : UInt64} {bound : Nat} (h : units.toNat ≤ bound) (perUnit : Nat) :
    secondsOf units perUnit ≤ bound * perUnit :=
  Nat.le_trans (Nat.min_le_left _ _) (Nat.mul_le_mul_right perUnit h)

/-- The lifetime of access tokens, in seconds. -/
def AuthSettings.accessTtl (s : AuthSettings) : Nat := secondsOf s.accessTtlMinutes 60

/-- The lifetime of refresh tokens, in seconds. -/
def AuthSettings.refreshTtl (s : AuthSettings) : Nat := secondsOf s.refreshTtlHours 3600

/-- The lifetime of sessions, in seconds. -/
def SessionSettings.sessionTtl (s : SessionSettings) : Nat := secondsOf s.sessionTtlHours 3600

/-- The time between sweeps, in seconds. -/
def SessionSettings.sweepInterval (s : SessionSettings) : Nat :=
  secondsOf s.sweepIntervalMinutes 60

/-! ## The check -/

namespace Settings

/-- The longest lifetime of sessions and refresh tokens, ten years. -/
def maxTtlHours : Nat := 87600

/-- The least number of octets of the key of signatures. -/
def minSecretSize : Nat := 32

/-- Refuses settings that would make tokens or sessions unusable. -/
def check (s : Settings) : Except Error Unit :=
  if s.auth.jwtSecret.utf8ByteSize < minSecretSize then .error (.config .secretTooShort)
  else if s.auth.accessTtlMinutes = 0 ∨ s.auth.refreshTtlHours = 0 then
    .error (.config .tokenTtlZero)
  else if s.session.sessionTtlHours = 0 then .error (.config .sessionTtlZero)
  else if maxTtlHours < s.session.sessionTtlHours.toNat ∨
      maxTtlHours < s.auth.refreshTtlHours.toNat then
    .error (.config (.ttlTooLong maxTtlHours))
  else .ok ()

end Settings

/-! ## JSON -/

/-- A number of sixty-four bits in JSON. -/
def UInt64.toJson (n : UInt64) : Json := .nat n.toNat

def ServerSettings.toJson (s : ServerSettings) : Json :=
  .obj [("host", .str s.host), ("port", .nat s.port.toNat),
    ("shutdown_grace_seconds", UInt64.toJson s.shutdownGraceSeconds),
    ("allowed_origins", .arr (s.allowedOrigins.map .str))]

def DatabaseSettings.toJson (s : DatabaseSettings) : Json :=
  .obj [("url", .str s.url), ("max_connections", .nat s.maxConnections.toNat),
    ("min_connections", .nat s.minConnections.toNat),
    ("connect_timeout_seconds", UInt64.toJson s.connectTimeoutSeconds),
    ("idle_timeout_seconds", UInt64.toJson s.idleTimeoutSeconds)]

def RedisSettings.toJson (s : RedisSettings) : Json :=
  .obj [("url", .str s.url), ("key_prefix", .str s.keyPrefix),
    ("command_timeout_ms", UInt64.toJson s.commandTimeoutMillis)]

def CacheSettings.toJson (s : CacheSettings) : Json :=
  .obj [("provider", .str s.provider),
    ("user_facts_ttl_seconds", UInt64.toJson s.userFactsTtlSeconds),
    ("role_permissions_ttl_seconds", UInt64.toJson s.rolePermissionsTtlSeconds),
    ("redis", s.redis.toJson),
    ("memory", .obj [("max_capacity", UInt64.toJson s.memory.maxCapacity)])]

def AuthSettings.toJson (s : AuthSettings) : Json :=
  .obj [("jwt_secret", .str s.jwtSecret),
    ("access_ttl_minutes", UInt64.toJson s.accessTtlMinutes),
    ("refresh_ttl_hours", UInt64.toJson s.refreshTtlHours),
    ("leeway_seconds", UInt64.toJson s.leewaySeconds),
    ("password_min_length", UInt64.toJson s.passwordMinLength)]

def SessionSettings.toJson (s : SessionSettings) : Json :=
  .obj [("store", .str s.store), ("session_ttl_hours", UInt64.toJson s.sessionTtlHours),
    ("sweep_interval_minutes", UInt64.toJson s.sweepIntervalMinutes)]

def Settings.toJson (s : Settings) : Json :=
  .obj [("server", s.server.toJson), ("database", s.database.toJson), ("cache", s.cache.toJson),
    ("auth", s.auth.toJson), ("session", s.session.toJson),
    ("events", .obj [("handler_timeout_seconds", UInt64.toJson s.events.handlerTimeoutSeconds)]),
    ("logging", .obj [("level", .str s.log.level), ("format", .str s.log.format)])]

instance : Json.Encode Settings := ⟨Settings.toJson⟩

end SessionAuth
