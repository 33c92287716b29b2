import SessionAuth.Json.Encode
import SessionAuth.Json.Reader
import SessionAuth.Text.Utf8
import SessionAuth.Uuid
import SessionAuth.Time.Rfc3339

/-!
# Decoding JSON

A decoder turns a JSON value into a value of a type, or names its objection.  Decoders meet the
parts of a value in the order of the text, so that of several objections the first one counts; that
the text stops being JSON is one of them.

A `Record` decodes the fields of a structure.  Its value is an object, in which unknown members are
passed over and no field may occur twice, or a list of the fields in their order.
-/

set_option autoImplicit false

namespace SessionAuth
namespace Json

open Text

/-- Why a value is not accepted. -/
inductive Objection where
  /-- The text is no JSON. -/
  | malformed
  /-- The value has another shape than the wanted one. -/
  | mismatch
  /-- The value has the wanted shape and is refused for the given reason. -/
  | refused (reason : String)
  deriving DecidableEq, Repr

/-- A decoder of values of a type. -/
abbrev Decoder (α : Type) : Type := Json → Except Objection α

/-- Whether a number is beyond the range of floating-point numbers of sixty-four bits. -/
def isHuge (mantissa : Nat) (exponent : Int) : Bool :=
  let order : Int := (writeDigits mantissa).length + exponent
  mantissa != 0 && 309 ≤ order &&
    (309 < order ||
      (if exponent ≥ 0 then Nat.pow 2 1024 - Nat.pow 2 970 ≤ mantissa * Nat.pow 10 exponent.toNat
       else (Nat.pow 2 1024 - Nat.pow 2 970) * Nat.pow 10 exponent.natAbs ≤ mantissa))

/-- The objection to a value of an unwanted shape. -/
def unwanted : Json → Objection
  | .int i => if isHuge i.natAbs 0 then .malformed else .mismatch
  | .real m e => if isHuge m.natAbs e then .malformed else .mismatch
  | .unpaired | .cut => .malformed
  | _ => .mismatch

mutual

/-- Whether a value can be kept to be decoded later: there is JSON to its end, and a text or a
number wherever it has one. -/
def isKeepable : Json → Bool
  | .arr items => itemsKeepable items
  | .obj members => membersKeepable members
  | v => unwanted v = .mismatch

def itemsKeepable : List Json → Bool
  | [] => true
  | v :: vs => v.isKeepable && itemsKeepable vs

def membersKeepable : List (String × Json) → Bool
  | [] => true
  | (_, v) :: ms => v.isKeepable && membersKeepable ms

end

namespace Decode

def string : Decoder String
  | .str s => .ok s
  | v => .error (unwanted v)

def bool : Decoder Bool
  | .bool b => .ok b
  | v => .error (unwanted v)

/-- A natural number below a bound. -/
def natBelow (bound : Nat) : Decoder Nat
  | .int (.ofNat n) => if n < bound then .ok n else .error (unwanted (.int n))
  | v => .error (unwanted v)

def uint64 : Decoder UInt64 := fun v => (natBelow UInt64.size v).map UInt64.ofNat

/-- An integer of sixty-four bits. -/
def int64 : Decoder Int
  | .int i => if minInt64 ≤ i ∧ i ≤ maxInt64 then .ok i else .error (unwanted (.int i))
  | v => .error (unwanted v)

/-- The items of a list, each decoded in turn. -/
def items {α : Type} (d : Decoder α) : List Json → Except Objection (List α)
  | [] => .ok []
  | v :: vs => do
    let a ← d v
    let as ← items d vs
    .ok (a :: as)

def list {α : Type} (d : Decoder α) : Decoder (List α)
  | .arr vs => items d vs
  | v => .error (unwanted v)

/-- A value that may be `null`. -/
def optional {α : Type} (d : Decoder α) : Decoder (Option α)
  | .null => .ok none
  | v => (d v).map some

/-- A text that a function accepts. -/
def text {α : Type} (f : String → Except Objection α) : Decoder α := fun v => string v >>= f

def uuid : Decoder Uuid := text fun s => match Uuid.ofText? s with
  | some u => .ok u
  | none => .error .mismatch

def timestamp : Decoder Timestamp := text fun s => match Time.ofRfc3339? s with
  | some t => .ok t
  | none => .error .mismatch

/-- One of some names, which may also stand as the only key of an object with the value `null`. -/
def name {α : Type} (names : List (String × α)) : Decoder α
  | .str s => match names.lookup s with
    | some a => .ok a
    | none => .error .mismatch
  | .obj ((k, v) :: rest) =>
    match v, names.lookup k, rest with
    | .cut, none, _ => if k.isEmpty then .error .malformed else .error .mismatch
    | _, none, _ => .error .mismatch
    | .null, some a, [] => .ok a
    | .null, some _, _ :: _ => .error .malformed
    | v, some _, _ => .error (unwanted v)
  | _ => .error .malformed

end Decode

/-! ## Records -/

/-- What a record wants of one of its fields. -/
structure Field where
  name : String
  /-- The objection to a value of the field, if there is one. -/
  check : Json → Except Objection Unit
  /-- Whether the member may be missing in an object. -/
  mayBeAbsent : Bool
  /-- Whether the item may be missing in a list. -/
  mayBeShort : Bool

/-- A decoder of a structure with named fields. -/
structure Record (α : Type) where
  fields : List Field
  /-- The structure with the given values of the fields; a value is `none` where it is absent. -/
  build : List (Option Json) → Except Objection α

namespace Record

instance : Functor Record where
  map f r := { fields := r.fields, build := fun vs => (r.build vs).map f }

instance : Applicative Record where
  pure a := { fields := [], build := fun _ => .ok a }
  seq f r :=
    let r := r ()
    { fields := f.fields ++ r.fields
      build := fun vs => do
        let g ← f.build (vs.take f.fields.length)
        let a ← r.build (vs.drop f.fields.length)
        .ok (g a) }

/-- A field that has to be there. -/
def required {α : Type} (name : String) (d : Decoder α) : Record α where
  fields := [⟨name, fun v => (d v).map fun _ => (), false, false⟩]
  build
    | some v :: _ => d v
    | _ => .error .mismatch

/-- A field that stands for `none` where it is `null` or missing in an object. -/
def maybe {α : Type} (name : String) (d : Decoder α) : Record (Option α) where
  fields := [⟨name, fun v => (Decode.optional d v).map fun _ => (), true, false⟩]
  build
    | some v :: _ => Decode.optional d v
    | _ => .ok none

/-- A field that has a value of its own where it is missing. -/
def withDefault {α : Type} (name : String) (d : Decoder α) (default : α) : Record α where
  fields := [⟨name, fun v => (d v).map fun _ => (), true, true⟩]
  build
    | some v :: _ => d v
    | _ => .ok default

/-- A field that may be missing, and is looked at only. -/
def glance {α : Type} (d : Decoder α) (name : String) : Record Unit :=
  (fun _ => ()) <$> maybe name d

/-- A record with more fields, which are looked at only. -/
def beside {α : Type} (r : Record α) (others : List (Record Unit)) : Record α :=
  others.foldl (fun r other => (fun a _ => a) <$> r <*> other) r

/-- Sets the value of the field with the given name. -/
def assign (name : String) (v : Json) : List Field → List (Option Json) → List (Option Json)
  | f :: fs, w :: ws => if f.name = name then some v :: ws else w :: assign name v fs ws
  | _, ws => ws

/-- Whether the field with the given name has a value. -/
def isAssigned (name : String) : List Field → List (Option Json) → Bool
  | f :: fs, w :: ws => if f.name = name then w.isSome else isAssigned name fs ws
  | _, _ => false

/-- Collects the values of the fields from the members of an object. -/
def gather (fields : List Field) (extra : String → Json → Except Objection Unit) :
    List (String × Json) → List (Option Json) → Except Objection (List (Option Json))
  | [], vs => .ok vs
  | (k, v) :: ms, vs =>
    match fields.find? fun f => f.name = k with
    | some f => do
      if isAssigned k fields vs then throw .mismatch
      f.check v
      gather fields extra ms (assign k v fields vs)
    | none => do
      extra k v
      gather fields extra ms vs

/-- Collects the values of the fields from the items of a list. -/
def align : List Field → List Json → Except Objection (List (Option Json))
  | [], [] => .ok []
  | [], _ :: _ => .error .malformed
  | f :: fs, [] => if f.mayBeShort then (align fs []).map (none :: ·) else .error .mismatch
  | f :: fs, v :: vs => do
    f.check v
    let ws ← align fs vs
    .ok (some v :: ws)

/-- Whether no field that has to be in an object is missing. -/
def allPresent : List Field → List (Option Json) → Bool
  | f :: fs, v :: vs => (v.isSome || f.mayBeAbsent) && allPresent fs vs
  | _, _ => true

/-- Unknown members are passed over. -/
def passOver (_ : String) (v : Json) : Except Objection Unit :=
  if v.isComplete then .ok () else .error .malformed

/-- Decodes the members of an object; `extra` looks at the unknown ones. -/
def ofMembers {α : Type} (r : Record α) (extra : String → Json → Except Objection Unit)
    (ms : List (String × Json)) : Except Objection α := do
  let vs ← gather r.fields extra ms (List.replicate r.fields.length none)
  if allPresent r.fields vs then r.build vs else throw .mismatch

/-- Decodes an object, or a list of the fields in their order. -/
def decode {α : Type} (r : Record α) : Decoder α
  | .obj ms => r.ofMembers passOver ms
  | .arr vs => do r.build (← align r.fields vs)
  | v => .error (unwanted v)

end Record

/-- Decodes a whole text, which nothing but blanks may follow. -/
def decodeText {α : Type} (d : Decoder α) (cs : List Char) : Except Objection α := do
  let doc := read cs
  let a ← d doc.value
  if doc.followed then throw .malformed else .ok a

/-- The characters of octets that should be UTF-8, with an escape that stands for no text for each
fault. -/
def charactersOf (bs : List UInt8) : List Char :=
  (Utf8.decode bs).flatMap fun c => match c with
    | some c => [c]
    | none => "\\ud800".toList

/-- Decodes a whole text that is given as octets. -/
def decodeOctets {α : Type} (d : Decoder α) (bs : List UInt8) : Except Objection α :=
  decodeText d (charactersOf bs)

end Json
end SessionAuth
