import SessionAuth.Http.Email
import SessionAuth.Http.Message
import SessionAuth.Json.Decode
import SessionAuth.Text.Blank

/-!
# Bodies of requests

A body is a JSON value of a certain shape, which then has to keep the rules of its fields.  The
shapes and rules stand together in a `Form`; `Form.read` reads a body, and reports all broken rules
at once.
-/

set_option autoImplicit false

namespace SessionAuth
namespace Http

open Text Json

/-! ## Content types -/

/-- Whether a character may stand in a token of a header. -/
def isTokenChar (c : Char) : Bool :=
  c.isAlphanum || "!#$%&'*+-.^_`|~".toList.contains c

def isToken (cs : List Char) : Bool := !cs.isEmpty && cs.all isTokenChar

/-- Whether a text is the parameter of a content type. -/
def isParameter (cs : List Char) : Bool :=
  match cutFirst '=' (cs.dropWhile (· = ' ')) with
  | some (name, '"' :: value) =>
    isToken name && (match cutFirst '"' value with
      | some (_, rest) => rest.isEmpty
      | none => false)
  | some (name, value) => isToken name && isToken value
  | none => false

/-- Whether a content type is that of JSON. -/
def isJsonType (s : String) : Bool :=
  let isEnd := fun c => c = ';' || c = ' '
  let cs := s.toList.map asciiLower
  let essence := cs.takeWhile fun c => !isEnd c
  let rest := (cs.dropWhile fun c => !isEnd c).dropWhile isEnd
  let parameters := split ';' rest
  let isJson := match cutFirst '/' essence with
    | some (kind, subtype) =>
      kind = "application".toList && isToken subtype &&
        (subtype = "json".toList || match cutLast '+' subtype with
          | some (name, suffix) => !name.isEmpty && suffix = "json".toList
          | none => false)
    | none => false
  isPlain s && isJson && parameters.all fun p => p.all (· = ' ') || isParameter p

/-! ## Forms -/

/-- A broken rule: the field and what is wrong with it. -/
structure Violation where
  field : String
  message : String

/-- The shape of a body, and the rules that it has to keep. -/
structure Form (α : Type) where
  shape : Record α
  violations : α → List Violation

/-- The message of a rule without one of its own. -/
def defaultMessage : String := "Validation error: length"

/-- The rule that a text is an email address. -/
def emailRule (field value : String) : List Violation :=
  if Email.isValid value then [] else [⟨field, "A valid email is required"⟩]

/-- The rule that a length is in a range. -/
def lengthRule (field : String) (least : Nat) (most : Option Nat) (message : String)
    (length : Nat) : List Violation :=
  if least ≤ length ∧ (most.all fun m => length ≤ m) then [] else [⟨field, message⟩]

/-- The greatest number of octets of a body. -/
def maxBodySize : Nat := 2097152

/-- The lines that report broken rules. -/
def violationLines (vs : List Violation) : List String :=
  (vs.map fun v => v.field ++ ": " ++ v.message).mergeSort fun a b => decide (a ≤ b)

namespace Form

variable {α : Type}

/-- Reads a value and checks its rules. -/
def readOctets (f : Form α) (bs : List UInt8) : Except Error α :=
  match decodeOctets f.shape.decode bs with
  | .error .malformed => .error (.body .malformed)
  | .error _ => .error (.body .mismatch)
  | .ok a =>
    match f.violations a with
    | [] => .ok a
    | vs => .error (.body (.violations (violationLines vs)))

/-- Reads the body of a request. -/
def read (f : Form α) (r : Request) : Except Error α :=
  if !((r.headers.first? "content-type").map isJsonType).getD false then
    .error (.body .contentType)
  else if maxBodySize < r.body.length then .error (.body .tooLong)
  else f.readOctets r.body

end Form

/-! ## The bodies in use -/

structure LoginForm where
  email : String
  password : String
  device : Option String

structure RegisterForm where
  email : String
  password : String

structure PasswordForm where
  current : String
  new : String

structure RefreshForm where
  refreshToken : String
  device : Option String

structure RevokeForm where
  sessionIds : List String
  removeOthers : Bool

structure CreateUserForm where
  email : String
  password : String
  role : String
  status : Option String

/-- The rule for passwords in bodies, which bounds the work of hashing them. -/
def passwordRule (field message value : String) : List Violation :=
  lengthRule field 1 (some 1024) message value.length

/-- The rule for the name of a device. -/
def deviceRule (device : Option String) : List Violation :=
  match device with
  | some d => lengthRule "device" 0 (some 256) defaultMessage d.length
  | none => []

namespace Form

open Record Decode

def login : Form LoginForm where
  shape := LoginForm.mk <$> required "email" string <*> required "password" string
    <*> maybe "device" string
  violations f := emailRule "email" f.email ++
    passwordRule "password" "Password is required" f.password ++ deviceRule f.device

def register : Form RegisterForm where
  shape := RegisterForm.mk <$> required "email" string <*> required "password" string
  violations f := emailRule "email" f.email ++
    passwordRule "password" "Password is required" f.password

def changePassword : Form PasswordForm where
  shape := PasswordForm.mk <$> required "current_password" string
    <*> required "new_password" string
  violations f :=
    passwordRule "current_password" "Current password is required" f.current ++
      passwordRule "new_password" "New password is required" f.new

def refresh : Form RefreshForm where
  shape := RefreshForm.mk <$> required "refresh_token" string <*> maybe "device" string
  violations f :=
    lengthRule "refresh_token" 1 none "Refresh token is required" f.refreshToken.length ++
      deviceRule f.device

def revokeSessions : Form RevokeForm where
  shape := RevokeForm.mk <$> withDefault "session_ids" (list string) []
    <*> withDefault "remove_others" bool false
  violations f :=
    lengthRule "session_ids" 0 (some 100) "At most 100 sessions per request" f.sessionIds.length

/-- A body with the name of a role. -/
def changeRole : Form String where
  shape := required "role" string
  violations role := lengthRule "role" 1 none defaultMessage role.length

/-- A body with the name of a status. -/
def changeStatus : Form String where
  shape := required "status" string
  violations status := lengthRule "status" 1 none defaultMessage status.length

/-- A body with a permission. -/
def grantPermission : Form String where
  shape := required "permission" string
  violations permission := lengthRule "permission" 1 (some 128) defaultMessage permission.length

def createUser : Form CreateUserForm where
  shape := CreateUserForm.mk <$> required "email" string <*> required "password" string
    <*> required "role" string <*> maybe "status" string
  violations f := emailRule "email" f.email ++
    passwordRule "password" "Password is required" f.password ++
      lengthRule "role" 1 none defaultMessage f.role.length

end Form

/-! ## JSON -/

def LoginForm.toJson (f : LoginForm) : Json :=
  .obj [("email", .str f.email), ("password", .str f.password), ("device", .strOrNull f.device)]

instance : Json.Encode LoginForm := ⟨LoginForm.toJson⟩

def RegisterForm.toJson (f : RegisterForm) : Json :=
  .obj [("email", .str f.email), ("password", .str f.password)]

instance : Json.Encode RegisterForm := ⟨RegisterForm.toJson⟩

def PasswordForm.toJson (f : PasswordForm) : Json :=
  .obj [("current_password", .str f.current), ("new_password", .str f.new)]

instance : Json.Encode PasswordForm := ⟨PasswordForm.toJson⟩

def RefreshForm.toJson (f : RefreshForm) : Json :=
  .obj [("refresh_token", .str f.refreshToken), ("device", .strOrNull f.device)]

instance : Json.Encode RefreshForm := ⟨RefreshForm.toJson⟩

def RevokeForm.toJson (f : RevokeForm) : Json :=
  .obj [("session_ids", .arr (f.sessionIds.map .str)), ("remove_others", .bool f.removeOthers)]

instance : Json.Encode RevokeForm := ⟨RevokeForm.toJson⟩

def CreateUserForm.toJson (f : CreateUserForm) : Json :=
  .obj [("email", .str f.email), ("password", .str f.password), ("role", .str f.role),
    ("status", .strOrNull f.status)]

instance : Json.Encode CreateUserForm := ⟨CreateUserForm.toJson⟩

end Http
end SessionAuth
