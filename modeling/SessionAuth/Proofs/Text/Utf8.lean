import SessionAuth.Crypto.Octets
import SessionAuth.Text.Utf8

/-!
# Reading back the octets of a text

`decode_octets` says that the octets of a text are read as its characters, without a fault.  A
character has one to four octets, and for each of these lengths the first octet tells the range of
the second.  `mem_toList_of_mem_octets` says that an octet below 128 is a character of its own.
-/

set_option autoImplicit false

namespace SessionAuth
namespace Text
namespace Utf8

open Crypto

/-! ## The octets of a text -/

theorem toList_loop (bs : ByteArray) (i : Nat) (read : List UInt8) :
    ByteArray.toList.loop bs i read = read.reverse ++ bs.data.toList.drop i := by
  fun_induction ByteArray.toList.loop bs i read with
  | case1 i read h ih =>
    have hi : i < bs.data.toList.length := h
    rw [ih, List.drop_eq_getElem_cons hi]
    simp [ByteArray.get!, h]
  | case2 i read h =>
    rw [List.drop_eq_nil_of_le (Nat.le_of_not_lt h), List.append_nil]

theorem octets_eq (s : String) : octets s = s.toList.flatMap String.utf8EncodeChar := by
  rw [octets, String.toUTF8_eq_toByteArray, ← String.utf8Encode_toList, List.utf8Encode,
    ByteArray.toList, toList_loop, List.toList_data_toByteArray]
  rfl

theorem octets_append (s t : String) : octets (s ++ t) = octets s ++ octets t := by
  rw [octets_eq, octets_eq, octets_eq, String.toList_append, List.flatMap_append]

/-! ## Single characters -/

/-- One octet that goes on with a character. -/
theorem finish_succ {n acc x : Nat} {low high : UInt8} (bs : List UInt8) (hx : x < 64)
    (hlow : low.toNat ≤ x + 0x80) (hhigh : x + 0x80 ≤ high.toNat) :
    finish (n + 1) low high acc (UInt8.ofNat (x + 0x80) :: bs) =
      finish n 0x80 0xBF (acc * 64 + x) bs := by
  have hb : (UInt8.ofNat (x + 0x80)).toNat = x + 0x80 := by
    rw [UInt8.toNat_ofNat']
    exact Nat.mod_eq_of_lt (by omega)
  rw [finish, if_pos (by simp only [UInt8.le_iff_toNat_le, hb]; omega), hb,
    show (x + 0x80) % 64 = x by omega]

/-- An octet that begins a character of two. -/
theorem lead_two : ∀ n < 32, 2 ≤ n → ¬ UInt8.ofNat (n + 0xc0) < 0x80 ∧
    following? (UInt8.ofNat (n + 0xc0)) = some (1, 0x80, 0xBF) ∧
    leadBits 1 (UInt8.ofNat (n + 0xc0)) = n := by
  decide

/-- An octet that begins a character of three. -/
theorem lead_three : ∀ n < 16, ¬ UInt8.ofNat (n + 0xe0) < 0x80 ∧
    following? (UInt8.ofNat (n + 0xe0)) =
      some (2, if n = 0 then 0xA0 else 0x80, if n = 13 then 0x9F else 0xBF) ∧
    leadBits 2 (UInt8.ofNat (n + 0xe0)) = n := by
  decide

/-- An octet that begins a character of four. -/
theorem lead_four : ∀ n < 5, ¬ UInt8.ofNat (n + 0xf0) < 0x80 ∧
    following? (UInt8.ofNat (n + 0xf0)) =
      some (3, if n = 0 then 0x90 else 0x80, if n = 4 then 0x8F else 0xBF) ∧
    leadBits 3 (UInt8.ofNat (n + 0xf0)) = n := by
  decide

/-- The octets of a character read back. -/
theorem decode_utf8EncodeChar (c : Char) (bs : List UInt8) :
    decode (String.utf8EncodeChar c ++ bs) = some c :: decode bs := by
  have hofNat : Char.ofNat c.val.toNat = c := Char.ofNat_toNat c
  have hvalid : c.val.toNat < 0xD800 ∨ 0xDFFF < c.val.toNat ∧ c.val.toNat < 0x110000 := c.valid
  revert hofNat hvalid
  rw [String.utf8EncodeChar]
  generalize c.val.toNat = v
  intro hofNat hvalid
  split
  case isTrue hone =>
    have hb : (UInt8.ofNat v).toNat = v := by
      rw [UInt8.toNat_ofNat']
      exact Nat.mod_eq_of_lt (by omega)
    have hascii : UInt8.ofNat v < 0x80 := by
      rw [UInt8.lt_iff_toNat_lt, hb]
      exact Nat.lt_succ_of_le hone
    rw [List.singleton_append, decode, if_pos hascii, hb, hofNat]
  case isFalse hone =>
  split
  case isTrue htwo =>
    obtain ⟨hascii, hfollowing, hlead⟩ := lead_two (v / 64 % 32) (by omega) (by omega)
    rw [List.cons_append, decode, if_neg hascii, hfollowing]
    simp only [List.cons_append, List.nil_append, hlead]
    rw [finish_succ _ (Nat.mod_lt _ (by decide)) (Nat.le_add_left ..), finish]
    · simp only [show v / 64 % 32 * 64 + v % 64 = v by omega, hofNat]
    · show _ ≤ 0xBF
      omega
  case isFalse htwo =>
  split
  case isTrue hthree =>
    obtain ⟨hascii, hfollowing, hlead⟩ := lead_three (v / 4096 % 16) (by omega)
    rw [List.cons_append, decode, if_neg hascii, hfollowing]
    simp only [List.cons_append, List.nil_append, hlead]
    rw [finish_succ _ (Nat.mod_lt _ (by decide)), finish_succ _ (Nat.mod_lt _ (by decide))
      (Nat.le_add_left ..), finish]
    · simp only [show (v / 4096 % 16 * 64 + v / 64 % 64) * 64 + v % 64 = v by omega, hofNat]
    · show _ ≤ 0xBF
      omega
    · split
      · show 0xA0 ≤ _
        omega
      · exact Nat.le_add_left ..
    · split
      · show _ ≤ 0x9F
        omega
      · show _ ≤ 0xBF
        omega
  case isFalse hthree =>
    obtain ⟨hascii, hfollowing, hlead⟩ := lead_four (v / 262144 % 8) (by omega)
    rw [List.cons_append, decode, if_neg hascii, hfollowing]
    simp only [List.cons_append, List.nil_append, hlead]
    rw [finish_succ _ (Nat.mod_lt _ (by decide)), finish_succ _ (Nat.mod_lt _ (by decide))
      (Nat.le_add_left ..), finish_succ _ (Nat.mod_lt _ (by decide)) (Nat.le_add_left ..), finish]
    · simp only [show ((v / 262144 % 8 * 64 + v / 4096 % 64) * 64 + v / 64 % 64) * 64 + v % 64 = v
        by omega, hofNat]
    · show _ ≤ 0xBF
      omega
    · show _ ≤ 0xBF
      omega
    · split
      · show 0x90 ≤ _
        omega
      · exact Nat.le_add_left ..
    · split
      · show _ ≤ 0x8F
        omega
      · show _ ≤ 0xBF
        omega

/-- The octets of a text are read as its characters. -/
theorem decode_octets (s : String) : decode (octets s) = s.toList.map some := by
  rw [octets_eq]
  induction s.toList with
  | nil => rw [List.flatMap_nil, decode, List.map_nil]
  | cons c cs ih => rw [List.flatMap_cons, decode_utf8EncodeChar, ih, List.map_cons]

/-! ## ASCII -/

/-- A character of more than one octet has none that is ASCII. -/
theorem le_of_mem_utf8EncodeChar {c : Char} {b : UInt8} (hlong : 127 < c.val.toNat)
    (h : b ∈ String.utf8EncodeChar c) : 0x80 ≤ b := by
  suffices ∃ n, 0x80 ≤ n ∧ n < 0x100 ∧ b = UInt8.ofNat n by
    obtain ⟨n, hlow, hhigh, rfl⟩ := this
    rwa [UInt8.le_iff_toNat_le, UInt8.toNat_ofNat', Nat.mod_eq_of_lt hhigh]
  rw [String.utf8EncodeChar] at h
  simp only [Nat.not_le.2 hlong, if_false] at h
  split at h
  · simp only [List.mem_cons, List.not_mem_nil, or_false] at h
    rcases h with h | h <;> exact ⟨_, by omega, by omega, h⟩
  split at h
  · simp only [List.mem_cons, List.not_mem_nil, or_false] at h
    rcases h with h | h | h <;> exact ⟨_, by omega, by omega, h⟩
  · simp only [List.mem_cons, List.not_mem_nil, or_false] at h
    rcases h with h | h | h | h <;> exact ⟨_, by omega, by omega, h⟩

/-- An octet that is ASCII is there only for its own character. -/
theorem mem_toList_of_mem_octets {s : String} {b : UInt8} (hascii : b < 0x80) (h : b ∈ octets s) :
    Char.ofNat b.toNat ∈ s.toList := by
  rw [octets_eq, List.mem_flatMap] at h
  obtain ⟨c, hc, hb⟩ := h
  by_cases hlong : 127 < c.val.toNat
  · exact absurd hascii (UInt8.not_lt.2 (le_of_mem_utf8EncodeChar hlong hb))
  · rw [String.utf8EncodeChar, if_pos (Nat.le_of_not_lt hlong), List.mem_singleton] at hb
    rw [hb, UInt8.toNat_ofNat', Nat.mod_eq_of_lt (by omega)]
    rwa [show Char.ofNat c.val.toNat = c from Char.ofNat_toNat c]

end Utf8
end Text
end SessionAuth
