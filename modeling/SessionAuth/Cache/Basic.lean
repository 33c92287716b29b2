import SessionAuth.Fallible
import SessionAuth.User.Basic

/-!
# Caches

A cache keeps texts under keys, each for a time.  `Cache.Call` lists what a cache is asked, and
`Cache.getJson` and `Cache.setJson` keep values in it by their JSON texts.
-/

set_option autoImplicit false

namespace SessionAuth
namespace Cache

/-- What a cache is asked. -/
inductive Call where
  | get (key : String)
  /-- Keeps a text for a number of nanoseconds. -/
  | set (key text : String) (nanos : Nat)
  | delete (key : String)
  | has (key : String)
  | isHealthy
  deriving DecidableEq

/-- The answers of a cache that is in reach. -/
abbrev Call.Answer : Call → Type
  | get _ => Option String
  | set _ _ _ => Unit
  | delete _ => Unit
  | has _ => Bool
  | isHealthy => Bool

/-- A cache, as those who use it see it. -/
abbrev interface : Interface := ⟨Call, fun c => Except Error c.Answer⟩

/-- The program that makes one call. -/
def call (c : Call) : Fallible interface c.Answer := .ofProgram (.question (I := interface) c)

/-- The value whose JSON text is kept under a key. -/
def getJson {α : Type} (d : Json.Decoder α) (key : String) : Fallible interface (Option α) := do
  match ← call (.get key) with
  | some text => some <$> (Json.fromText d text : ExceptT Error (Program interface) α)
  | none => pure none

/-- Keeps the JSON text of a value. -/
def setJson (key : String) (v : Json) (nanos : Nat) : Fallible interface Unit :=
  call (.set key v.compress nanos)

end Cache

end SessionAuth
