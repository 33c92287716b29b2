import SessionAuth.Crypto.Argon2
import SessionAuth.Error
import SessionAuth.Password.Stored

/-!
# Hashing passwords

New passwords are hashed with Argon2id and a fresh salt.  A stored hash carries its own algorithm
and parameters, and a password is compared by computing its hash with them.
-/

set_option autoImplicit false

namespace SessionAuth
namespace Password

open Crypto Text

/-- A stored hash all of whose fields make sense. -/
structure Recipe where
  variant : Argon2.Variant
  version : Argon2.Version
  params : Argon2.Params
  salt : List UInt8

namespace Recipe

/-- Sets one parameter. -/
def setParam (p : Argon2.Params) (name value : String) : Option Argon2.Params :=
  let number := Stored.number? value.toList
  if name = "m" then number.map fun n => { p with memory := n }
  else if name = "t" then number.map fun n => { p with passes := n }
  else if name = "p" then number.map fun n => { p with lanes := n }
  else
    let octets := Base64.decode .standard value.toList
    if name = "keyid" then (octets.filter (·.length ≤ 8)).map fun _ => p
    else if name = "data" then (octets.filter (·.length ≤ 32)).map fun bs => { p with data := bs }
    else none

/-- How a stored hash of the given length was computed. -/
def ofStored? (s : Stored) (salt : String) (length : Nat) : Option Recipe := do
  let variant ← Argon2.Variant.byName.lookup s.algorithm
  let version ← match s.version with
    | some n => Argon2.Version.ofNumber? n
    | none => some .v19
  let params ← s.params.foldlM (fun p (name, value) => setParam p name value)
    { Argon2.Params.default with length := length }
  let salt ← Base64.decode .standard salt.toList
  if params.isValid && 8 ≤ salt.length then some ⟨variant, version, params, salt⟩ else none

/-- The hash of a password. -/
def hash (r : Recipe) (password : String) : List UInt8 :=
  Argon2.hash r.variant r.version r.params (octets password) r.salt

/-- The stored form of a hash. -/
def store (r : Recipe) (hash : List UInt8) : Stored where
  algorithm := r.variant.name
  version := some r.version.number
  params := [("m", writeNat r.params.memory), ("t", writeNat r.params.passes),
    ("p", writeNat r.params.lanes)]
  salt := some (String.ofList (Base64.encode .standard r.salt))
  hash := some hash

end Recipe

/-- The stored form of the hash of a new password. -/
def hashNew (salt : List UInt8) (password : String) : String :=
  let recipe : Recipe := ⟨.id, .v19, .default, salt⟩
  (recipe.store (recipe.hash password)).toText

/-- Whether a password has the stored hash.  No password has one without a salt or a hash. -/
def verify (password stored : String) : Except Error Bool :=
  match Stored.ofText? stored with
  | none => .error .storedHashMalformed
  | some s =>
    match s.salt, s.hash with
    | some salt, some hash =>
      match Recipe.ofStored? s salt hash.length with
      | some recipe => .ok (recipe.hash password == hash)
      | none => .error .hashNotComputable
    | _, _ => .ok false

end Password
end SessionAuth
