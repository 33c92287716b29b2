/-!
# Reading UTF-8

Octets are read as characters; where they are no UTF-8, the longest start of a character that stands
there counts as one fault.
-/

set_option autoImplicit false

namespace SessionAuth
namespace Text
namespace Utf8

/-- The number of octets that follow the first octet of a character, and the range of the first of
them. -/
def following? (b : UInt8) : Option (Nat × UInt8 × UInt8) :=
  if 0xC2 ≤ b ∧ b ≤ 0xDF then some (1, 0x80, 0xBF)
  else if b = 0xE0 then some (2, 0xA0, 0xBF)
  else if b = 0xED then some (2, 0x80, 0x9F)
  else if 0xE1 ≤ b ∧ b ≤ 0xEF then some (2, 0x80, 0xBF)
  else if b = 0xF0 then some (3, 0x90, 0xBF)
  else if 0xF1 ≤ b ∧ b ≤ 0xF3 then some (3, 0x80, 0xBF)
  else if b = 0xF4 then some (3, 0x80, 0x8F)
  else none

/-- The bits of the first octet of a character that `n` octets follow. -/
def leadBits (n : Nat) (b : UInt8) : Nat := b.toNat % Nat.pow 2 (6 - n)

/-- The rest of a character after the bits `acc`, and the octets behind it; `none` where it breaks
off. -/
def finish : Nat → UInt8 → UInt8 → Nat → List UInt8 → Option Char × List UInt8
  | 0, _, _, acc, bs => (some (Char.ofNat acc), bs)
  | _ + 1, _, _, _, [] => (none, [])
  | n + 1, low, high, acc, b :: bs =>
    if low ≤ b ∧ b ≤ high then finish n 0x80 0xBF (acc * 64 + b.toNat % 64) bs
    else (none, b :: bs)

theorem length_finish (n : Nat) (low high : UInt8) (acc : Nat) (bs : List UInt8) :
    (finish n low high acc bs).2.length ≤ bs.length := by
  fun_induction finish n low high acc bs with
  | case1 => exact Nat.le_refl _
  | case2 => exact Nat.le_refl _
  | case3 n low high acc b bs h ih => exact Nat.le_succ_of_le ih
  | case4 => exact Nat.le_refl _

/-- The characters that octets write, with `none` for each fault. -/
def decode (bs : List UInt8) : List (Option Char) :=
  match bs with
  | [] => []
  | b :: bs =>
    if b < 0x80 then some (Char.ofNat b.toNat) :: decode bs
    else match following? b with
      | none => none :: decode bs
      | some (n, low, high) =>
        have := length_finish n low high (leadBits n b) bs
        (finish n low high (leadBits n b) bs).1 :: decode (finish n low high (leadBits n b) bs).2
  termination_by bs.length
  decreasing_by all_goals simp_wf; try omega

/-- The text that octets write; `none` if they write none. -/
def decode? (bs : List UInt8) : Option (List Char) := (decode bs).mapM id

/-- The text that octets write, with a replacement character for each fault. -/
def decodeLossy (bs : List UInt8) : List Char :=
  (decode bs).map fun c => c.getD (Char.ofNat 0xFFFD)

end Utf8
end Text
end SessionAuth
