import SessionAuth.Text.Slice
import SessionAuth.Collection.SortedSet

/-!
# Permissions

A permission is written `resource:action`, where both parts are non-empty runs of lower-case
letters, digits and underscores, or `full_access`, which stands for every permission.
`ofText?_eq_some_iff` says that exactly the texts of permissions are read, each as itself.

A role holds a finite set of permissions, sorted by their text.
-/

set_option autoImplicit false

namespace SessionAuth

open Text

/-- The text of the permission that grants all others. -/
def fullAccessText : String := "full_access"

/-- Whether a character may occur in a part of a permission. -/
def isPermissionChar (c : Char) : Bool :=
  ('a' ≤ c && c ≤ 'z') || ('0' ≤ c && c ≤ '9') || c == '_'

/-- Whether a list of characters may stand on one side of the colon. -/
def isPermissionPart (cs : List Char) : Bool := !cs.isEmpty && cs.all isPermissionChar

/-- Whether a text is the text of a permission. -/
def isPermissionText (s : String) : Bool :=
  s == fullAccessText || match cutFirst ':' s.toList with
    | some (resource, action) => isPermissionPart resource && isPermissionPart action
    | none => false

/-- Something that a role may be allowed to do. -/
structure Permission where
  text : String
  isText : isPermissionText text = true
  deriving DecidableEq

namespace Permission

/-- The permission with the given text. -/
def ofText? (s : String) : Option Permission :=
  if h : isPermissionText s = true then some ⟨s, h⟩ else none

theorem ext_text {p q : Permission} (h : p.text = q.text) : p = q := by
  cases p; cases q; cases h; rfl

theorem ofText?_text (p : Permission) : ofText? p.text = some p := by
  simp [ofText?, p.isText]

theorem ofText?_eq_some_iff {s : String} {p : Permission} :
    ofText? s = some p ↔ p.text = s := by
  constructor
  · intro h
    unfold ofText? at h
    split at h
    · cases h; rfl
    · cases h
  · rintro rfl
    exact p.ofText?_text

/-- The permission that grants all others. -/
def fullAccess : Permission := ⟨fullAccessText, by decide⟩

/-- Whether a permission grants all others. -/
def isFullAccess (p : Permission) : Bool := p.text == fullAccessText

/-- Whether holding one permission is enough where another is required. -/
def grants (held required : Permission) : Bool := held.isFullAccess || held == required

instance : Ord Permission := ⟨fun p q => compare p.text q.text⟩

instance : Std.TransOrd Permission where
  eq_swap {p q} := @Std.OrientedCmp.eq_swap _ (compare : String → String → Ordering) _ p.text q.text
  isLE_trans {p q r} :=
    @Std.TransCmp.isLE_trans _ (compare : String → String → Ordering) _ p.text q.text r.text

instance : Std.LawfulEqOrd Permission where
  compare_self {p} := @Std.ReflCmp.compare_self _ (compare : String → String → Ordering) _ p.text
  eq_of_compare h := ext_text (Std.LawfulEqOrd.eq_of_compare h)

/-! ## The permissions that the services ask for -/

def userRead : Permission := ⟨"user:read", by decide⟩
def userWrite : Permission := ⟨"user:write", by decide⟩
def userDelete : Permission := ⟨"user:delete", by decide⟩
def userChangeRole : Permission := ⟨"user:change_role", by decide⟩
def userChangeStatus : Permission := ⟨"user:change_status", by decide⟩
def roleManage : Permission := ⟨"role:manage", by decide⟩
def sessionRead : Permission := ⟨"session:read", by decide⟩
def sessionRevoke : Permission := ⟨"session:revoke", by decide⟩

/-- All of them. -/
def known : List Permission :=
  [userRead, userWrite, userDelete, userChangeRole, userChangeStatus, roleManage, sessionRead,
    sessionRevoke]

end Permission
end SessionAuth
