import SessionAuth.Text.Lowercase

/-!
# Roles and statuses of accounts

Both are small enumerations with a name each.  Names are read in any case.
-/

set_option autoImplicit false

namespace SessionAuth

open Text

/-- What a user is allowed to do is decided by the role. -/
inductive Role where
  | client
  | operator
  | admin
  deriving DecidableEq, Repr, Inhabited

namespace Role

/-- All roles, the one with the fewest permissions first. -/
def all : List Role := [client, operator, admin]

def name : Role → String
  | client => "client"
  | operator => "operator"
  | admin => "admin"

/-- The roles by their names. -/
def byName : List (String × Role) := all.map fun r => (r.name, r)

/-- The role with the given name, in any case. -/
def ofText? (s : String) : Option Role := byName.lookup (lowercase s)

theorem name_injective : Function.Injective name := by
  intro r r'
  cases r <;> cases r' <;> decide

def isAdmin (r : Role) : Bool := r == admin

/-- The place of a role among all of them. -/
def index (r : Role) : Nat := all.idxOf r

end Role

/-- Whether an account can be used. -/
inductive Status where
  /-- Not yet activated. -/
  | inactive
  | active
  | suspended
  deriving DecidableEq, Repr, Inhabited

namespace Status

def all : List Status := [inactive, active, suspended]

def name : Status → String
  | inactive => "inactive"
  | active => "active"
  | suspended => "suspended"

/-- The statuses by their names. -/
def byName : List (String × Status) := all.map fun s => (s.name, s)

/-- The status with the given name, in any case. -/
def ofText? (s : String) : Option Status := byName.lookup (lowercase s)

theorem name_injective : Function.Injective name := by
  intro s s'
  cases s <;> cases s' <;> decide

/-- Whether the owner of an account with this status can log in. -/
def canAuthenticate (s : Status) : Bool := s == active

end Status
end SessionAuth
