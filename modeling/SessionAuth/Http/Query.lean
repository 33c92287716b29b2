import SessionAuth.Page
import SessionAuth.User.Basic

/-!
# Query strings

The part of a URL after the question mark is a list of fields, whose names and values are escaped.
The list of users is asked for with such fields.
-/

set_option autoImplicit false

namespace SessionAuth
namespace Http

open Text

/-! ## Escapes -/

/-- The octets of a text in which escapes of a percent sign and two digits stand for one octet
each. -/
def unescapeOctets : List Char → List UInt8
  | '%' :: h :: l :: cs =>
    match Hex.value? h, Hex.value? l with
    | some high, some low => UInt8.ofNat (high * 16 + low) :: unescapeOctets cs
    | _, _ => '%'.toNat.toUInt8 :: unescapeOctets (h :: l :: cs)
  | c :: cs => (String.singleton c).toUTF8.toList ++ unescapeOctets cs
  | [] => []

/-- A name or value of a field; a plus sign stands for a blank. -/
def unescapeField (cs : List Char) : String :=
  String.ofList (Utf8.decodeLossy (unescapeOctets (cs.map fun c => if c = '+' then ' ' else c)))

/-- The fields of a query. -/
def queryFields (query : String) : List (String × String) :=
  ((split '&' query.toList).filter fun f => !f.isEmpty).map fun f =>
    match cutFirst '=' f with
    | some (name, value) => (unescapeField name, unescapeField value)
    | none => (unescapeField f, "")

/-! ## The list of users -/

/-- What is asked of the list of users. -/
structure UserListQuery where
  page : Option UInt64
  pageSize : Option UInt64
  search : Option String
  /-- Names of roles, joined by commas. -/
  roles : Option String
  /-- Names of statuses, joined by commas. -/
  statuses : Option String

/-- The value of a field that may be given once. -/
def onceField? (fields : List (String × String)) (name : String) :
    Except Error (Option String) :=
  match fields.filter fun f => f.1 == name with
  | [] => .ok none
  | [f] => .ok (some f.2)
  | _ => .error .query

/-- The value of a field that is a number. -/
def numberField? (fields : List (String × String)) (name : String) :
    Except Error (Option UInt64) := do
  match ← onceField? fields name with
  | none => .ok none
  | some s =>
    match (readNat? s).filter (· < UInt64.size) with
    | some n => .ok (some (UInt64.ofNat n))
    | none => .error .query

namespace UserListQuery

/-- Reads a query. -/
def read (query : Option String) : Except Error UserListQuery := do
  let fields := queryFields (query.getD "")
  let page ← numberField? fields "page"
  let size ← numberField? fields "page_size"
  let search ← onceField? fields "search"
  let roles ← onceField? fields "role"
  let statuses ← onceField? fields "status"
  .ok ⟨page, size, search, roles, statuses⟩

/-- The page that is asked for. -/
def pageRequest (q : UserListQuery) : PageRequest :=
  .clamped (q.page.getD PageRequest.default.number) (q.pageSize.getD PageRequest.default.size)

/-- The items of a list that is joined by commas, without blank ones. -/
def listItems (s : Option String) : List String :=
  ((split ',' (s.getD "").toList).map fun p => String.ofList (trimChars p)).filter
    fun p => !p.isEmpty

/-- The users that are asked for. -/
def filter (q : UserListQuery) : Except Error UserFilter := do
  let roles ← (listItems q.roles).mapM Role.read
  let statuses ← (listItems q.statuses).mapM Status.read
  .ok ⟨q.search.filter fun s => !allBlank s, roles, statuses⟩

end UserListQuery
end Http
end SessionAuth
