import SessionAuth.Text.Blank
import SessionAuth.User.Named

/-!
# Users

A user has an account with an email, a password hash, a role and a status.  The facts of a user are
role and status, all that authorization looks at.  A filter selects users by a part of the email and
by lists of roles and statuses.
-/

set_option autoImplicit false

namespace SessionAuth

open Text

/-- What authorization looks at. -/
structure Facts where
  role : Role
  status : Status
  deriving DecidableEq, Repr

/-- An account. -/
structure User where
  id : UserId
  email : String
  passwordHash : String
  role : Role
  status : Status
  createdAt : Timestamp
  updatedAt : Timestamp
  deriving DecidableEq

def User.facts (u : User) : Facts := ⟨u.role, u.status⟩

/-- An account that is to be created. -/
structure NewUser where
  email : String
  passwordHash : String
  role : Role
  status : Status
  deriving DecidableEq

/-- A selection of users. -/
structure UserFilter where
  /-- A text that the email contains, in any case and without the blanks around it. -/
  search : Option String
  /-- The roles of the selected users; no roles select every user. -/
  roles : List Role
  /-- The statuses of the selected users; no statuses select every user. -/
  statuses : List Status
  deriving DecidableEq

namespace UserFilter

/-- The text to search for, unless it is blank. -/
def needle? (f : UserFilter) : Option String :=
  (f.search.map trim).filter fun s => !s.isEmpty

/-- Whether a user is selected. -/
def selects (f : UserFilter) (u : User) : Bool :=
  (match f.needle? with
    | some needle => contains (lowercase needle).toList (lowercase u.email).toList
    | none => true) &&
  (f.roles.isEmpty || f.roles.contains u.role) &&
  (f.statuses.isEmpty || f.statuses.contains u.status)

end UserFilter

/-! ## JSON -/

def Facts.toJson (f : Facts) : Json :=
  .obj [("role", f.role.toJson), ("status", f.status.toJson)]

instance : Json.Encode Facts := ⟨Facts.toJson⟩

/-- The timestamp in JSON. -/
def Timestamp.toJson (t : Timestamp) : Json := .str (Time.toRfc3339 t)

instance : Json.Encode Timestamp := ⟨Timestamp.toJson⟩

/-- The account without its password hash. -/
def User.toJson (u : User) : Json :=
  .obj [("id", u.id.toJson), ("email", .str u.email), ("role", u.role.toJson),
    ("status", u.status.toJson), ("created_at", u.createdAt.toJson),
    ("updated_at", u.updatedAt.toJson)]

instance : Json.Encode User := ⟨User.toJson⟩

namespace Json.Decode

def facts : Decoder Facts :=
  (Facts.mk <$> Record.required "role" role <*> Record.required "status" status).decode

def user : Decoder User :=
  (User.mk <$> Record.required "id" uuid <*> Record.required "email" string
    <*> Record.required "password_hash" string <*> Record.required "role" role
    <*> Record.required "status" status <*> Record.required "created_at" timestamp
    <*> Record.required "updated_at" timestamp).decode

end Json.Decode
end SessionAuth
