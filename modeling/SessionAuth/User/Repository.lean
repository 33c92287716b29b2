import SessionAuth.Collection.Table
import SessionAuth.Fallible
import SessionAuth.Page
import SessionAuth.User.Basic

/-!
# The repository of users

`UserRepository.Call` lists what a repository of users is asked.  `UserTable` is a repository in
memory; it also hands out the ids of new users, and counts how often a user is looked up by id.

No two users are created with emails that differ in the case of ASCII letters only.
-/

set_option autoImplicit false

namespace SessionAuth

open Text

namespace UserRepository

/-- What a repository of users is asked. -/
inductive Call where
  | findById (id : UserId)
  | findByEmail (email : String)
  | create (user : NewUser)
  | list (filter : UserFilter) (page : PageRequest)
  | setPassword (id : UserId) (hash : String)
  | setRole (id : UserId) (role : Role)
  | setStatus (id : UserId) (status : Status)
  | delete (id : UserId)

/-- The answers of a repository that is in reach.  The truth values say whether there is such a
user. -/
abbrev Call.Answer : Call → Type
  | findById _ => Option User
  | findByEmail _ => Option User
  | create _ => User
  | list _ _ => Page User
  | setPassword _ _ => Bool
  | setRole _ _ => Bool
  | setStatus _ _ => Bool
  | delete _ => Bool

/-- A repository of users, as those who use it see it. -/
abbrev interface : Interface := ⟨Call, fun c => Except Error c.Answer⟩

/-- The program that makes one call. -/
def call (c : Call) : Fallible interface c.Answer := .ofProgram (.question (I := interface) c)

end UserRepository

/-- A repository of users in memory. -/
structure UserTable where
  users : Table UserId User
  /-- The id of the next new user. -/
  nextId : UserId
  /-- How often a user was looked up by id. -/
  lookups : Nat

namespace UserTable

/-- A repository without users, the first of whom gets the given id. -/
def empty (nextId : UserId) : UserTable := ⟨.empty, nextId, 0⟩

/-- Puts a user in, in place of a user with the same id. -/
def insert (t : UserTable) (u : User) : UserTable := { t with users := t.users.set u.id u }

/-- The user with an email, in any case of ASCII letters. -/
def findByEmail? (t : UserTable) (email : String) : Option User :=
  t.users.values.find? fun u => equalIgnoringAsciiCase u.email email

/-- The account of a new user. -/
def newUser (t : UserTable) (now : Timestamp) (u : NewUser) : User where
  id := t.nextId
  email := u.email
  passwordHash := u.passwordHash
  role := u.role
  status := u.status
  createdAt := now
  updatedAt := now

/-- Creates a user, unless the email is in use. -/
def create (t : UserTable) (now : Timestamp) (u : NewUser) : Except Error User × UserTable :=
  if (t.findByEmail? u.email).isSome then (.error .emailTaken, t)
  else
    let user := t.newUser now u
    (.ok user, { t.insert user with nextId := t.nextId.succ })

/-- Whether a user comes before another in lists: the one who was created later does, and of two who
were created at once the one with the greater id. -/
def precedes (u v : User) : Bool :=
  ((compare v.createdAt u.createdAt).then (compare v.id u.id)).isLE

/-- The selected users, in the order of lists. -/
def selected (t : UserTable) (f : UserFilter) : List User :=
  (t.users.values.filter f.selects).mergeSort precedes

/-- Changes a user; the answer says whether there is one. -/
def update (t : UserTable) (now : Timestamp) (id : UserId) (change : User → User) :
    Bool × UserTable :=
  ((t.users.get? id).isSome,
    { t with users := t.users.modify id fun u => { change u with updatedAt := now } })

/-- An answer that is not an error. -/
def succeed {α : Type} (r : α × UserTable) : Except Error α × UserTable := (.ok r.1, r.2)

/-- The answer to a call at a time, and the repository after it. -/
def answer (now : Timestamp) : Program.Server UserRepository.interface UserTable
  | .findById id, t => (.ok (t.users.get? id), { t with lookups := t.lookups + 1 })
  | .findByEmail email, t => (.ok (t.findByEmail? email), t)
  | .create user, t => t.create now user
  | .list filter page, t => (.ok (Page.ofList (t.selected filter) page), t)
  | .setPassword id hash, t => succeed (t.update now id fun u => { u with passwordHash := hash })
  | .setRole id role, t => succeed (t.update now id fun u => { u with role := role })
  | .setStatus id status, t => succeed (t.update now id fun u => { u with status := status })
  | .delete id, t =>
    (.ok (t.users.get? id).isSome, { t with users := t.users.erase id })

end UserTable
end SessionAuth
