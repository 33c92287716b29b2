import SessionAuth.Settings.Schema
import SessionAuth.Text.Floating
import SessionAuth.Text.Lowercase

/-!
# Values of configurations

The sources of a configuration give a `Value` each.  They are merged from the first to the last:
tables member by member, and of any other two values the later one stays.  Texts, numbers and truth
values stand for each other where a setting wants one of them.
-/

set_option autoImplicit false

namespace SessionAuth
namespace Settings

open Text

/-- A value that a source of a configuration gives. -/
inductive Value where
  | text (s : String)
  | int (i : Int)
  | real (x : Floating)
  | bool (b : Bool)
  | list (items : List Value)
  | table (members : List (String × Value))
  deriving Inhabited

namespace Value

/-- The members with a value under a key, at the place of the old one or at the end. -/
def setMember (key : String) (v : Value) : List (String × Value) → List (String × Value)
  | [] => [(key, v)]
  | (k, w) :: ms => if k = key then (k, v) :: ms else (k, w) :: setMember key v ms

mutual

/-- The value that a later one makes of an earlier one. -/
def overlay (earlier : Option Value) : Value → Value
  | table ms =>
    match earlier with
    | some (table old) => table (membersOver old ms)
    | some other => if ms.isEmpty then other else table (membersOver [] ms)
    | none => table (membersOver [] ms)
  | v => v

/-- The members that later ones make of earlier ones. -/
def membersOver (earlier : List (String × Value)) : List (String × Value) → List (String × Value)
  | [] => earlier
  | (k, v) :: ms => membersOver (setMember k (overlay (earlier.lookup k) v) earlier) ms

end

/-- What the sources merge to, the first one first. -/
def mergeAll (sources : List Value) : Value :=
  sources.foldl (fun earlier later => overlay (some earlier) later) (table [])

/-- The value as a text. -/
def asText? : Value → Option String
  | text s => some s
  | int i => some (writeInt i)
  | real x => some x.toText
  | bool b => some (if b then "true" else "false")
  | _ => none

/-- A number brought into the range of natural numbers of sixty-four bits. -/
def saturate (i : Int) : Nat := min i.toNat (UInt64.size - 1)

/-- The value as a natural number. -/
def asNat? : Value → Option Nat
  | int (.ofNat n) => some n
  | int _ => none
  | real (.infinite false) => some (UInt64.size - 1)
  | real (.infinite true) => some 0
  | real x => some (saturate (x.round?.getD 0))
  | bool b => some (if b then 1 else 0)
  | text s =>
    let lower := lowercase s
    if ["true", "on", "yes"].contains lower then some 1
    else if ["false", "off", "no"].contains lower then some 0
    else readNat? s
  | _ => none

end Value

/-- How to read settings from what the sources merge to. -/
def fromSources : Source Value where
  text := Value.asText?
  nat := Value.asNat?
  items
    | .list vs => some vs
    | _ => none
  fields names
    | .table ms => some (names.map fun name => ms.lookup name)
    | .list vs => some (itemsAsFields names vs)
    | _ => none

end Settings
end SessionAuth
