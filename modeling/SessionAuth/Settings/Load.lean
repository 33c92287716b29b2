import SessionAuth.Settings.Toml

/-!
# Loading settings

Settings come from a default file, a file of the environment, and environment variables, of which
the later ones win.  A variable names a setting by the parts of its path after the prefix, all
joined by two underscores and in any case; what looks like a truth value or a number is one.
-/

set_option autoImplicit false

namespace SessionAuth
namespace Settings

open Text

/-- What the variables that matter begin with, in lower case. -/
def variablePrefix : List Char := "authgate__".toList

/-- The text with a dot for every two underscores. -/
def dotted : List Char → List Char
  | '_' :: '_' :: cs => '.' :: dotted cs
  | c :: cs => c :: dotted cs
  | [] => []

/-- The path of the setting that a variable names; `none` if it names no setting. -/
def pathOf? (name : String) : Option (List String) :=
  (stripStart variablePrefix (lowercase name).toList).bind fun rest =>
    let parts := split '.' (dotted rest)
    if parts.all fun p => !p.isEmpty && p.all Toml.isBareChar then some (parts.map String.ofList)
    else none

/-- The value of a variable. -/
def valueOf (s : String) : Value :=
  let lower := lowercase s
  if lower = "true" then .bool true
  else if lower = "false" then .bool false
  else match readInt64? s with
    | some i => .int i
    | none =>
      match Floating.ofText? s with
      | some x => .real x
      | none => .text s

/-- The table in which a value stands under a path. -/
def nest (v : Value) : List String → Value
  | [] => v
  | k :: ks => .table [(k, nest v ks)]

/-- The tables of environment variables, given by name and value. -/
def ofVariables (vars : List (String × String)) : List Value :=
  vars.filterMap fun (name, value) => (pathOf? name).map (nest (valueOf value))

/-- A file of the configuration; a file that is missing gives nothing. -/
def ofFile (text : Option String) : Except Error Value :=
  match text with
  | none => .ok (.table [])
  | some s =>
    match Toml.ofText? s with
    | some v => .ok v
    | none => .error (.config .unreadable)

/-- The settings that two files and the environment variables give. -/
def load (default overlay : Option String) (vars : List (String × String)) :
    Except Error Settings := do
  let default ← ofFile default
  let overlay ← ofFile overlay
  match fromSources.settings (Value.mergeAll (default :: overlay :: ofVariables vars)) with
  | some settings =>
    settings.check
    .ok settings
  | none => .error (.config .mismatch)

end Settings
end SessionAuth
