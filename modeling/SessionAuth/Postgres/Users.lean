import SessionAuth.Postgres.Client
import SessionAuth.User.Repository

/-!
# The repository of users in PostgreSQL

A filter of users becomes a list of conditions (`conditions`), each of which is written with one
placeholder.  `userCall` answers the calls to a repository of users.
-/

set_option autoImplicit false

namespace SessionAuth
namespace Postgres

open Text

/-! ## Rows -/

/-- The columns of a user, in the order in which they are read. -/
def userColumns : String := "id, email, password_hash, role, status, created_at, updated_at"

/-- The user of a row. -/
def readUser : Row → Option User
  | [.text id, .text email, .text hash, .text role, .text status, .integer created,
      .integer updated] => do
    let id ← Uuid.ofText? id
    let role ← Role.byName.lookup role
    let status ← Status.byName.lookup status
    pure {
      id := id
      email := email
      passwordHash := hash
      role := role
      status := status
      createdAt := .ofMicros created
      updatedAt := .ofMicros updated }
  | _ => none

/-! ## Filters -/

/-- A condition on users with what it compares them to. -/
inductive Condition where
  /-- The email in lower case matches a pattern. -/
  | emailLike (pattern : String)
  /-- The name of the role is one of some texts. -/
  | roleAmong (names : List String)
  /-- The name of the status is one of some texts. -/
  | statusAmong (names : List String)
  deriving DecidableEq, Repr

/-- A text as the part of a pattern that matches it alone. -/
def escapeLike (cs : List Char) : List Char :=
  cs.flatMap fun c => if c = '%' ∨ c = '_' ∨ c = '\\' then ['\\', c] else [c]

/-- The pattern of the texts that contain a text. -/
def patternContaining (s : String) : String :=
  String.ofList ('%' :: (escapeLike s.toList ++ ['%']))

/-- The conditions that hold of the users that a filter selects. -/
def conditions (f : UserFilter) : List Condition :=
  (match f.needle? with
    | some needle => [.emailLike (patternContaining (lowercase needle))]
    | none => []) ++
  (if f.roles.isEmpty then [] else [.roleAmong (f.roles.map Role.name)]) ++
  (if f.statuses.isEmpty then [] else [.statusAmong (f.statuses.map Status.name)])

/-- The placeholder with a number. -/
def placeholder (n : Nat) : String := "$" ++ writeNat n

/-- A condition as one more part of a conjunction, with the given number of its placeholder. -/
def Condition.text (n : Nat) : Condition → String
  | emailLike _ => " AND LOWER(email) LIKE " ++ placeholder n
  | roleAmong _ => " AND role::text = ANY(" ++ placeholder n ++ ")"
  | statusAmong _ => " AND status::text = ANY(" ++ placeholder n ++ ")"

/-- What the placeholder of a condition stands for. -/
def Condition.parameter : Condition → Parameter
  | emailLike pattern => .text pattern
  | roleAmong names => .texts names
  | statusAmong names => .texts names

/-- Conditions as parts of a conjunction, with their placeholders numbered from `n` on. -/
def writeConditions (n : Nat) : List Condition → String
  | [] => ""
  | c :: cs => c.text n ++ writeConditions (n + 1) cs

/-- The statement that counts the users that a filter selects. -/
def countStatement (f : UserFilter) : Statement where
  text := "SELECT COUNT(*) FROM users WHERE TRUE" ++ writeConditions 1 (conditions f)
  parameters := (conditions f).map Condition.parameter

/-- A natural number as an integer of sixty-four bits, or the greatest one of those. -/
def bounded (n : Nat) : Int := min (n : Int) maxInt64

/-- The statement that lists a page of the users that a filter selects. -/
def listStatement (f : UserFilter) (page : PageRequest) : Statement where
  text := "SELECT " ++ userColumns ++ " FROM users WHERE TRUE" ++
    writeConditions 1 (conditions f) ++ " ORDER BY created_at DESC, id DESC LIMIT " ++
    placeholder ((conditions f).length + 1) ++ " OFFSET " ++
    placeholder ((conditions f).length + 2)
  parameters := (conditions f).map Condition.parameter ++
    [.integer (bounded page.limit), .integer (bounded page.offset)]

/-! ## Calls -/

/-- The index that keeps emails apart. -/
def emailIndex : String := "users_email_lower_idx"

/-- The statement that inserts a user with a given id. -/
def insertStatement (id : UserId) (u : NewUser) : Statement where
  text := "INSERT INTO users (id, email, password_hash, role, status) " ++
    "VALUES ($1, $2, $3, $4, $5) RETURNING " ++ userColumns
  parameters := [.id id, .text u.email, .text u.passwordHash, .text u.role.name,
    .text u.status.name]

/-- What a failed insertion is for those who asked for it. -/
def insertError : Fault → Error
  | .refused (some name) => if name = emailIndex then .emailTaken else .database .createUser
  | _ => .database .createUser

/-- The statement that changes a column of a user. -/
def updateStatement (column : String) (id : UserId) (value : Parameter) : Statement where
  text := "UPDATE users SET " ++ column ++ " = $2, updated_at = NOW() WHERE id = $1"
  parameters := [.id id, value]

/-- A page of the users that a filter selects, and how many they are. -/
def listUsers (pool : Pool) (f : UserFilter) (page : PageRequest) :
    Fallible interface (Page User) := do
  let total ← pool.perform .countUsers (fetchOne (countStatement f) readInteger)
  let users ← pool.perform .listUsers (fetchAll (listStatement f page) readUser)
  pure (Page.ofItems users page total.toNat)

/-- The operation that answers a call to the repository; a new user gets the id `fresh`. -/
def userCall (pool : Pool) (fresh : UserId) :
    (c : UserRepository.Call) → Fallible interface c.Answer
  | .findById id => pool.perform .findUserById (fetchFirst
      ⟨"SELECT " ++ userColumns ++ " FROM users WHERE id = $1", [.id id]⟩ readUser)
  | .findByEmail email => pool.perform .findUserByEmail (fetchFirst
      ⟨"SELECT " ++ userColumns ++ " FROM users WHERE LOWER(email) = LOWER($1)", [.text email]⟩
      readUser)
  | .create u => .ofProgram (Except.mapError insertError <$>
      (pool.connection (fetchOne (insertStatement fresh u) readUser)).run)
  | .list filter page => listUsers pool filter page
  | .setPassword id hash =>
    pool.perform .updatePassword (execute (updateStatement "password_hash" id (.text hash)))
  | .setRole id role =>
    pool.perform .updateRole (execute (updateStatement "role" id (.text role.name)))
  | .setStatus id status =>
    pool.perform .updateStatus (execute (updateStatement "status" id (.text status.name)))
  | .delete id =>
    pool.perform .deleteUser (execute ⟨"DELETE FROM users WHERE id = $1", [.id id]⟩)

/-- A program that uses a repository of users, with the repository in PostgreSQL. -/
def withUsers {α : Type} (pool : Pool) (fresh : UserId)
    (p : Fallible UserRepository.interface α) : Fallible interface α :=
  .ofProgram (p.run.interpret fun c => (userCall pool fresh c).run)

end Postgres
end SessionAuth
