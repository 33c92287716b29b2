import SessionAuth.Text.Base64
import SessionAuth.Text.Decimal
import SessionAuth.Text.Slice

/-!
# The text of a password hash

A stored hash has up to five fields, each after a dollar sign: the name of the algorithm, `v=` and a
version, parameters `name=value` joined by commas, the salt and the hash, the last in Base64.  All
but the first may be missing, from the end or, for version and parameters, from the middle.
-/

set_option autoImplicit false

namespace SessionAuth
namespace Password

open Text

/-- A stored hash, with its fields as they are written. -/
structure Stored where
  algorithm : String
  version : Option Nat
  params : List (String × String)
  salt : Option String
  hash : Option (List UInt8)
  deriving DecidableEq

namespace Stored

/-- Whether a character may occur in the name of an algorithm or a parameter. -/
def isNameChar (c : Char) : Bool := ('a' ≤ c && c ≤ 'z') || ('0' ≤ c && c ≤ '9') || c == '-'

/-- Whether a character may occur in the value of a parameter or in a salt. -/
def isValueChar (c : Char) : Bool :=
  ('a' ≤ c && c ≤ 'z') || ('A' ≤ c && c ≤ 'Z') || ('0' ≤ c && c ≤ '9') ||
    c == '/' || c == '+' || c == '.' || c == '-'

def isName (cs : List Char) : Bool := !cs.isEmpty && cs.length ≤ 32 && cs.all isNameChar

def isValue (cs : List Char) : Bool := cs.length ≤ 64 && cs.all isValueChar

/-- The number that a value writes with the fewest digits, if it has thirty-two bits. -/
def number? (cs : List Char) : Option Nat :=
  match cs with
  | '0' :: _ :: _ => none
  | _ => if isValue cs then (readDigits? cs).filter (· < UInt32.size) else none

/-- A parameter. -/
def param? (cs : List Char) : Option (String × String) :=
  match split '=' cs with
  | [name, value] =>
    if isName name && isValue value then some (String.ofList name, String.ofList value) else none
  | _ => none

/-- The parameters of a field. -/
def params? (cs : List Char) : Option (List (String × String)) :=
  if cs.length ≤ 127 then (split ',' cs).mapM param? else none

/-- The version in a field, if the field is that of a version; `some none` where it is malformed. -/
def version? (cs : List Char) : Option (Option Nat) :=
  match cs with
  | 'v' :: '=' :: value => if cs.contains ',' then none else some (number? value)
  | _ => none

/-- A salt: between four and sixty-four characters. -/
def salt? (cs : List Char) : Option String :=
  if 4 ≤ cs.length && isValue cs then some (String.ofList cs) else none

/-- A hash: between ten and sixty-four octets. -/
def hash? (cs : List Char) : Option (List UInt8) :=
  (Base64.decode .standard cs).filter fun bs => 10 ≤ bs.length && bs.length ≤ 64

/-- The fields after the parameters. -/
def ofTail? (algorithm : String) (version : Option Nat) (params : List (String × String)) :
    List (List Char) → Option Stored
  | [] => some ⟨algorithm, version, params, none, none⟩
  | [salt] => do some ⟨algorithm, version, params, some (← salt? salt), none⟩
  | [salt, hash] => do
    some ⟨algorithm, version, params, some (← salt? salt), some (← hash? hash)⟩
  | _ => none

/-- The fields after the version. -/
def ofParams? (algorithm : String) (version : Option Nat) :
    List (List Char) → Option Stored
  | [] => ofTail? algorithm version [] []
  | field :: fields =>
    if field.contains '=' then do ofTail? algorithm version (← params? field) fields
    else ofTail? algorithm version [] (field :: fields)

/-- The stored hash that a text writes. -/
def ofText? (s : String) : Option Stored :=
  match split '$' s.toList with
  | [] :: name :: fields =>
    if isName name then
      match fields with
      | [] => ofParams? (String.ofList name) none []
      | field :: rest =>
        match version? field with
        | some version => do ofParams? (String.ofList name) (some (← version)) rest
        | none => ofParams? (String.ofList name) none fields
    else none
  | _ => none

/-- The text of a stored hash. -/
def toText (s : Stored) : String :=
  let version := match s.version with
    | some v => "$v=" ++ writeNat v
    | none => ""
  let params := ",".intercalate (s.params.map fun p => p.1 ++ "=" ++ p.2)
  let params := if s.params.isEmpty then "" else "$" ++ params
  let salt := match s.salt with
    | some salt => "$" ++ salt
    | none => ""
  let hash := match s.hash with
    | some bs => "$" ++ String.ofList (Base64.encode .standard bs)
    | none => ""
  "$" ++ s.algorithm ++ version ++ params ++ salt ++ hash

end Stored
end Password
end SessionAuth
