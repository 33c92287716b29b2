import SessionAuth.Crypto.Sha384
import SessionAuth.Postgres.Client

/-!
# Migrations

The schema of the database is made by migrations, scripts that are run once and in order.  The
database records the migrations that were run with the checksums of their scripts.  Nothing is run
on a record that says that a migration failed, or that has a migration that is not known; and
nothing more is run after a migration whose script has changed since.
-/

set_option autoImplicit false

namespace SessionAuth
namespace Postgres

/-- A step from one schema to the next. -/
structure Migration where
  version : Nat
  script : String
  deriving DecidableEq

/-- The checksum by which a script is recognized. -/
def Migration.checksum (m : Migration) : List UInt8 := Crypto.sha384 m.script.toUTF8.toList

/-- The entry of a migration that was run. -/
structure Applied where
  version : Nat
  checksum : List UInt8
  succeeded : Bool
  deriving DecidableEq

/-- The record of the migrations that were run. -/
abbrev History : Type := List Applied

/-- The users and the permissions of roles. -/
def usersAndPermissions : Migration where
  version := 20260101000000
  script := 
    "CREATE TYPE user_role AS ENUM ('client', 'operator', 'admin');\n" ++
    "CREATE TYPE user_status AS ENUM ('inactive', 'active', 'suspended');\n" ++
    "\n" ++
    "CREATE TABLE users (\n" ++
    "    id            UUID PRIMARY KEY,\n" ++
    "    email         TEXT NOT NULL,\n" ++
    "    password_hash TEXT NOT NULL,\n" ++
    "    role          user_role NOT NULL DEFAULT 'client',\n" ++
    "    status        user_status NOT NULL DEFAULT 'inactive',\n" ++
    "    created_at    TIMESTAMPTZ NOT NULL DEFAULT NOW(),\n" ++
    "    updated_at    TIMESTAMPTZ NOT NULL DEFAULT NOW()\n" ++
    ");\n" ++
    "\n" ++
    "CREATE UNIQUE INDEX users_email_lower_idx ON users (LOWER(email));\n" ++
    "\n" ++
    "CREATE TABLE role_permissions (\n" ++
    "    role       user_role NOT NULL,\n" ++
    "    permission TEXT NOT NULL,\n" ++
    "    PRIMARY KEY (role, permission)\n" ++
    ");\n" ++
    "\n" ++
    "INSERT INTO role_permissions (role, permission) VALUES\n" ++
    "    ('admin', 'full_access'),\n" ++
    "    ('operator', 'user:read'),\n" ++
    "    ('operator', 'user:change_status'),\n" ++
    "    ('operator', 'session:read'),\n" ++
    "    ('operator', 'session:revoke'),\n" ++
    "    ('client', 'session:read'),\n" ++
    "    ('client', 'session:revoke');\n"

/-- All migrations in order. -/
def migrations : List Migration := [usersAndPermissions]

/-- The entry of a migration. -/
def applied? (h : History) (m : Migration) : Option Applied :=
  h.find? fun a => a.version = m.version

/-- Whether nothing on record keeps migrations from being run. -/
def isConsistent (known : List Migration) (h : History) : Bool :=
  h.all fun a => a.succeeded && known.any fun m => m.version == a.version

/-- Runs the migrations that were not run before, and records those that succeed. -/
def runPending (pool : Pool) : List Migration → History →
    Program interface (Except Fault Unit × History)
  | [], h => pure (.ok (), h)
  | m :: ms, h =>
    match applied? h m with
    | some a =>
      if a.checksum = m.checksum then runPending pool ms h else pure (.error .unreadable, h)
    | none => do
      match ← (send ⟨m.script, []⟩).run with
      | .ok _ => runPending pool ms (h ++ [⟨m.version, m.checksum, true⟩])
      | .error fault => pure (.error fault, h)

/-- Brings the schema up to date; the answer is the result and the record afterwards. -/
def migrate (pool : Pool) (h : History) : Program interface (Except Error Unit × History) := do
  if pool.isOpen && isConsistent migrations h then
    let (result, h) ← runPending pool migrations h
    pure (Except.mapError (fun _ => .database .migrate) result, h)
  else pure (.error (.database .migrate), h)

end Postgres
end SessionAuth
