import SessionAuth.Json.Reader
import SessionAuth.Settings.Basic

/-!
# The shape of settings

Settings are read from values of two kinds: JSON, and what the sources of a configuration merge to.
A `Source` says how to read the leaves of a kind of value; the names and defaults of the settings
are the same for both.
-/

set_option autoImplicit false

namespace SessionAuth
namespace Settings

/-- How to read values of a type. -/
structure Source (V : Type) where
  text : V → Option String
  nat : V → Option Nat
  items : V → Option (List V)
  /-- The values of the fields with the given names, `none` for one that is missing. -/
  fields : List String → V → Option (List (Option V))

namespace Source

variable {V α : Type} (s : Source V)

/-- A field that has to be there. -/
def required (d : V → Option α) : Option V → Option α
  | some v => d v
  | none => none

/-- A field that has a value of its own where it is missing. -/
def orElse (default : α) (d : V → Option α) : Option V → Option α
  | some v => d v
  | none => some default

/-- A natural number below a bound. -/
def natBelow (bound : Nat) (v : V) : Option Nat := (s.nat v).filter (· < bound)

def uint16 (v : V) : Option UInt16 := (s.natBelow UInt16.size v).map UInt16.ofNat
def uint32 (v : V) : Option UInt32 := (s.natBelow UInt32.size v).map UInt32.ofNat
def uint64 (v : V) : Option UInt64 := (s.natBelow UInt64.size v).map UInt64.ofNat

def server (v : V) : Option ServerSettings := do
  let d : ServerSettings := {}
  match ← s.fields ["host", "port", "shutdown_grace_seconds", "allowed_origins"] v with
  | [host, port, grace, origins] =>
    some {
      host := ← orElse d.host s.text host
      port := ← orElse d.port s.uint16 port
      shutdownGraceSeconds := ← orElse d.shutdownGraceSeconds s.uint64 grace
      allowedOrigins := ← orElse d.allowedOrigins (fun v => do (← s.items v).mapM s.text) origins }
  | _ => none

/-- The pool of connections, whose URL has to be there unless one is given. -/
def database (url? : Option String) (v : V) : Option DatabaseSettings := do
  match ← s.fields ["url", "max_connections", "min_connections", "connect_timeout_seconds",
      "idle_timeout_seconds"] v with
  | [url, most, least, connect, idle] =>
    let url ← match url? with
      | some default => orElse default s.text url
      | none => required s.text url
    let d : DatabaseSettings := { url := url }
    some {
      url := url
      maxConnections := ← orElse d.maxConnections s.uint32 most
      minConnections := ← orElse d.minConnections s.uint32 least
      connectTimeoutSeconds := ← orElse d.connectTimeoutSeconds s.uint64 connect
      idleTimeoutSeconds := ← orElse d.idleTimeoutSeconds s.uint64 idle }
  | _ => none

def redis (v : V) : Option RedisSettings := do
  let d : RedisSettings := {}
  match ← s.fields ["url", "key_prefix", "command_timeout_ms"] v with
  | [url, start, timeout] =>
    some {
      url := ← orElse d.url s.text url
      keyPrefix := ← orElse d.keyPrefix s.text start
      commandTimeoutMillis := ← orElse d.commandTimeoutMillis s.uint64 timeout }
  | _ => none

def memoryCache (v : V) : Option MemoryCacheSettings := do
  let d : MemoryCacheSettings := {}
  match ← s.fields ["max_capacity"] v with
  | [capacity] => some { maxCapacity := ← orElse d.maxCapacity s.uint64 capacity }
  | _ => none

def cache (v : V) : Option CacheSettings := do
  let d : CacheSettings := {}
  match ← s.fields ["provider", "user_facts_ttl_seconds", "role_permissions_ttl_seconds", "redis",
      "memory"] v with
  | [provider, facts, permissions, redis, memory] =>
    some {
      provider := ← orElse d.provider s.text provider
      userFactsTtlSeconds := ← orElse d.userFactsTtlSeconds s.uint64 facts
      rolePermissionsTtlSeconds := ← orElse d.rolePermissionsTtlSeconds s.uint64 permissions
      redis := ← orElse d.redis s.redis redis
      memory := ← orElse d.memory s.memoryCache memory }
  | _ => none

def auth (v : V) : Option AuthSettings := do
  let d : AuthSettings := {}
  match ← s.fields ["jwt_secret", "access_ttl_minutes", "refresh_ttl_hours", "leeway_seconds",
      "password_min_length"] v with
  | [secret, access, refresh, leeway, least] =>
    some {
      jwtSecret := ← orElse d.jwtSecret s.text secret
      accessTtlMinutes := ← orElse d.accessTtlMinutes s.uint64 access
      refreshTtlHours := ← orElse d.refreshTtlHours s.uint64 refresh
      leewaySeconds := ← orElse d.leewaySeconds s.uint64 leeway
      passwordMinLength := ← orElse d.passwordMinLength s.uint64 least }
  | _ => none

def session (v : V) : Option SessionSettings := do
  let d : SessionSettings := {}
  match ← s.fields ["store", "session_ttl_hours", "sweep_interval_minutes"] v with
  | [store, ttl, interval] =>
    some {
      store := ← orElse d.store s.text store
      sessionTtlHours := ← orElse d.sessionTtlHours s.uint64 ttl
      sweepIntervalMinutes := ← orElse d.sweepIntervalMinutes s.uint64 interval }
  | _ => none

def events (v : V) : Option EventSettings := do
  let d : EventSettings := {}
  match ← s.fields ["handler_timeout_seconds"] v with
  | [timeout] =>
    some { handlerTimeoutSeconds := ← orElse d.handlerTimeoutSeconds s.uint64 timeout }
  | _ => none

def log (v : V) : Option LogSettings := do
  let d : LogSettings := {}
  match ← s.fields ["level", "format"] v with
  | [level, format] =>
    some {
      level := ← orElse d.level s.text level
      format := ← orElse d.format s.text format }
  | _ => none

/-- All settings. -/
def settings (v : V) : Option Settings := do
  match ← s.fields ["server", "database", "cache", "auth", "session", "events", "logging"] v with
  | [server, database, cache, auth, session, events, log] =>
    some {
      server := ← orElse {} s.server server
      database := ← required (s.database none) database
      cache := ← orElse {} s.cache cache
      auth := ← required s.auth auth
      session := ← orElse {} s.session session
      events := ← orElse {} s.events events
      log := ← orElse {} s.log log }
  | _ => none

end Source

/-! ## JSON -/

/-- The items of a list as the values of fields, in order. -/
def itemsAsFields {V : Type} (names : List String) (vs : List V) : List (Option V) :=
  names.zipIdx.map fun (_, i) => vs[i]?

/-- The values of the named members; `none` where a name occurs twice. -/
def membersAsFields (names : List String) (ms : List (String × Json)) :
    Option (List (Option Json)) :=
  names.mapM fun name =>
    match ms.filter fun m => m.1 == name with
    | [] => some none
    | [m] => some (some m.2)
    | _ => none

/-- How to read settings from JSON. -/
def fromJson : Source Json where
  text
    | .str s => some s
    | _ => none
  nat
    | .int (.ofNat n) => some n
    | _ => none
  items
    | .arr vs => some vs
    | _ => none
  fields names
    | .obj ms => membersAsFields names ms
    | .arr vs => if vs.length ≤ names.length then some (itemsAsFields names vs) else none
    | _ => none

/-- The settings that a JSON text gives. -/
def ofJsonText (s : String) : Except Error Settings :=
  match (Json.parse? s).bind fromJson.settings with
  | some settings => .ok settings
  | none => .error (.undecodable none)

end Settings
end SessionAuth
