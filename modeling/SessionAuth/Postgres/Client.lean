import SessionAuth.Fallible
import SessionAuth.Settings.Basic
import SessionAuth.Url

/-!
# Talking to a PostgreSQL server

A `Query` is a conversation with a server: it sends statements with parameters, and reads the rows
or the number of affected rows that come back.  Queries take their connections from a pool; a pool
that is closed has none, and nothing is sent.  For those who asked for it, a query that fails is a
database task that fails, for whatever reason.
-/

set_option autoImplicit false

namespace SessionAuth
namespace Postgres

/-- What a placeholder of a statement stands for. -/
inductive Parameter where
  | id (u : Uuid)
  /-- A text, or a value of an enumeration. -/
  | text (s : String)
  | integer (i : Int)
  | texts (items : List String)
  deriving DecidableEq

/-- A statement with what its placeholders `$1`, `$2` and so on stand for. -/
structure Statement where
  text : String
  parameters : List Parameter
  deriving DecidableEq

/-- A value in a row. -/
inductive Value where
  | null
  /-- An integer, or a time in microseconds. -/
  | integer (i : Int)
  /-- A text, an id, or a value of an enumeration. -/
  | text (s : String)
  deriving DecidableEq, Repr

abbrev Row : Type := List Value

/-- What comes of a statement. -/
inductive Outcome where
  | done (rows : List Row) (affected : Nat)
  /-- The server refuses; it may name the constraint that would be violated. -/
  | refused (violated : Option String)
  /-- The connection is lost before there is an answer. -/
  | lost
  deriving DecidableEq, Repr

/-- A connection to a server. -/
abbrev interface : Interface := ⟨Statement, fun _ => Outcome⟩

/-- Why a query does not end with a value. -/
inductive Fault where
  | refused (violated : Option String)
  | lost
  /-- A row is wanted, and there is none. -/
  | noRow
  /-- A row is not of the kind that is wanted. -/
  | unreadable
  deriving DecidableEq, Repr

/-- Conversations with a server. -/
abbrev Query (α : Type) : Type := ExceptT Fault (Program interface) α

variable {α : Type}

/-! ## Statements -/

/-- Sends a statement; the answer are its rows and the number of affected rows. -/
def send (s : Statement) : Query (List Row × Nat) :=
  .mk ((fun outcome => match outcome with
    | .done rows affected => .ok (rows, affected)
    | .refused violated => .error (.refused violated)
    | .lost => .error .lost) <$> Program.question (I := interface) s)

/-- A value that was read from a row. -/
def readRow (read : Row → Option α) (row : Row) : Except Fault α :=
  match read row with
  | some a => .ok a
  | none => .error .unreadable

/-- Sends a statement and reads all rows. -/
def fetchAll (s : Statement) (read : Row → Option α) : Query (List α) := do
  let (rows, _) ← send s
  .mk (pure (rows.mapM (readRow read)))

/-- Sends a statement and reads the first row, if there is one. -/
def fetchFirst (s : Statement) (read : Row → Option α) : Query (Option α) := do
  let (rows, _) ← send s
  match rows with
  | row :: _ => .mk (pure (some <$> readRow read row))
  | [] => pure none

/-- Sends a statement and reads the first row. -/
def fetchOne (s : Statement) (read : Row → Option α) : Query α := do
  match ← fetchFirst s read with
  | some a => pure a
  | none => throw .noRow

/-- Sends a statement; the answer says whether it affected rows. -/
def execute (s : Statement) : Query Bool := do
  let (_, affected) ← send s
  pure (affected > 0)

/-- Reads a row of one integer. -/
def readInteger : Row → Option Int
  | [.integer i] => some i
  | _ => none

/-- Reads a row of one text. -/
def readText : Row → Option String
  | [.text s] => some s
  | _ => none

/-! ## The pool -/

/-- The ways of protecting a connection that an address may ask for. -/
def protections : List String :=
  ["disable", "allow", "prefer", "require", "verify-ca", "verify-full"]

/-- Whether a parameter of an address can be understood; parameters that mean nothing are
ignored. -/
def isParameter (p : String × String) : Bool :=
  match p.1 with
  | "sslmode" | "ssl-mode" =>
    protections.contains (String.ofList (p.2.toList.map Text.asciiLower))
  | "statement-cache-capacity" => ((Text.readNat? p.2).filter (· < UInt64.size)).isSome
  | "port" => ((Text.readNat? p.2).filter (· < UInt16.size)).isSome
  | _ => true

/-- Whether a text is the address of a server. -/
def isAddress (s : String) : Bool :=
  match Url.ofText? s with
  | some url => url.query.all isParameter
  | none => false

/-- Connections to a server. -/
structure Pool where
  isOpen : Bool
  deriving DecidableEq, Repr

namespace Pool

/-- What the service calls itself where it connects. -/
def applicationName : String := "authgate"

/-- The pool of connections that the settings ask for, where a server does or does not accept the
first of them. -/
def connect (s : DatabaseSettings) (accepted : Bool) : Except Error Pool :=
  if !isAddress s.url then .error (.config .databaseUrl)
  else if accepted then .ok ⟨true⟩
  else .error (.database .connect)

/-- The pool without its connections. -/
def close (_ : Pool) : Pool := ⟨false⟩

/-- A query on a connection of the pool. -/
def connection (p : Pool) (q : Query α) : Query α := if p.isOpen then q else throw .lost

/-- A query as a task of the database. -/
def perform (p : Pool) (task : DatabaseTask) (q : Query α) : Fallible interface α :=
  .ofProgram (Except.mapError (fun _ => .database task) <$> (p.connection q).run)

/-- Whether the server answers as it should. -/
def isHealthy (p : Pool) : Fallible interface Bool :=
  p.perform .checkHealth ((· == 1) <$> fetchOne ⟨"SELECT 1", []⟩ readInteger)

end Pool
end Postgres
end SessionAuth
