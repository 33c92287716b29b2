import SessionAuth.Json.Basic

/-!
# Values with a JSON form

`Json.Encode` gives the JSON form of the values of a type.  The instances of structures stand where
the structures are defined.
-/

set_option autoImplicit false

namespace SessionAuth
namespace Json

/-- Types whose values have a JSON form. -/
class Encode (α : Type) where
  encode : α → Json

export Encode (encode)

instance : Encode Json := ⟨id⟩
instance : Encode Unit := ⟨fun _ => null⟩
instance : Encode Bool := ⟨bool⟩
instance : Encode Nat := ⟨nat⟩
instance : Encode Int := ⟨int⟩
instance : Encode String := ⟨str⟩

instance {α : Type} [Encode α] : Encode (List α) := ⟨fun as => arr (as.map encode)⟩

/-- A value that is not there is `null`. -/
instance {α : Type} [Encode α] : Encode (Option α) where
  encode
    | some a => encode a
    | none => null

end Json
end SessionAuth
