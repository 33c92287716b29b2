/-!
# Numbers as octets

Hash functions read their input as words, and give their result as octets again.
-/

set_option autoImplicit false

namespace SessionAuth
namespace Crypto

/-- The octets of a text. -/
def octets (s : String) : List UInt8 := s.toUTF8.toList

/-- The octets of a number, the lowest first. -/
def littleEndian : Nat → Nat → List UInt8
  | 0, _ => []
  | width + 1, n => UInt8.ofNat n :: littleEndian width (n / 256)

/-- The octets of a number, the highest first. -/
def bigEndian (width n : Nat) : List UInt8 := (littleEndian width n).reverse

/-- The number whose octets are given, the lowest first. -/
def ofLittleEndian (bs : List UInt8) : Nat := bs.foldr (fun b n => n * 256 + b.toNat) 0

/-- The number whose octets are given, the highest first. -/
def ofBigEndian (bs : List UInt8) : Nat := bs.foldl (fun n b => n * 256 + b.toNat) 0

/-- Cuts a list into parts of `size` items; the last part may be shorter. -/
def chunks {α : Type} (size : Nat) (as : List α) : List (List α) :=
  if _ : as.length ≤ size ∨ size = 0 then [as]
  else as.take size :: chunks size (as.drop size)
  termination_by as.length
  decreasing_by simp only [List.length_drop]; omega

end Crypto
end SessionAuth
