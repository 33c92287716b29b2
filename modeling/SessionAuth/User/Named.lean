import SessionAuth.Error
import SessionAuth.Json.Decode
import SessionAuth.User.Role

/-!
# Reading permissions, roles and statuses

Requests name permissions, roles and statuses by their texts, and a text that names nothing is an
error that repeats it.  In JSON each is its text; there the names of roles and statuses are read in
lower case only, while permissions follow the same rule everywhere.
-/

set_option autoImplicit false

namespace SessionAuth

/-- The permission that a text names. -/
def Permission.read (s : String) : Except Error Permission :=
  match ofText? s with
  | some p => .ok p
  | none => .error (.invalidPermission s)

/-- The role that a text names. -/
def Role.read (s : String) : Except Error Role :=
  match ofText? s with
  | some r => .ok r
  | none => .error (.invalidRole s)

/-- The status that a text names. -/
def Status.read (s : String) : Except Error Status :=
  match ofText? s with
  | some t => .ok t
  | none => .error (.invalidStatus s)

/-- The user that a text identifies. -/
def UserId.read (s : String) : Except Error UserId :=
  match Uuid.ofText? s with
  | some u => .ok u
  | none => .error (.invalidUserId s)

/-! ## JSON -/

def Permission.toJson (p : Permission) : Json := .str p.text
def Role.toJson (r : Role) : Json := .str r.name
def Status.toJson (s : Status) : Json := .str s.name
def Uuid.toJson (u : Uuid) : Json := .str u.toText

instance : Json.Encode Permission := ⟨Permission.toJson⟩
instance : Json.Encode Role := ⟨Role.toJson⟩
instance : Json.Encode Status := ⟨Status.toJson⟩
instance : Json.Encode Uuid := ⟨Uuid.toJson⟩

/-- A list of permissions in JSON. -/
def Permission.listToJson (ps : List Permission) : Json := .arr (ps.map toJson)

namespace Json.Decode

def permission : Decoder Permission := text fun s =>
  match Permission.read s with
  | .ok p => .ok p
  | .error e => .error (.refused e.display)

def permissions : Decoder (List Permission) := list permission
def role : Decoder Role := name Role.byName
def status : Decoder Status := name Status.byName
def tokenKind : Decoder TokenKind := name TokenKind.byName
def errorKind : Decoder ErrorKind := name ErrorKind.byName

end Json.Decode

/-- Decodes a text as a value of a type. -/
def Json.fromText {α : Type} (d : Json.Decoder α) (s : String) : Except Error α :=
  match Json.decodeText d s.toList with
  | .ok a => .ok a
  | .error (.refused reason) => .error (.undecodable (some reason))
  | .error _ => .error (.undecodable none)

end SessionAuth
