import SessionAuth.Text.Base64

/-!
# The characters of Base64

A text in Base64 has only characters of its alphabet, and a length that depends on the number of
octets alone.  Other formats join such texts with characters that the alphabet lacks.
-/

set_option autoImplicit false

namespace SessionAuth
namespace Text
namespace Base64

/-- A character of Base64 has a value. -/
theorem exists_char_of_mem_encode {a : Alphabet} {octets : List UInt8} {c : Char}
    (h : c ∈ encode a octets) : ∃ n < 64, c = a.char n := by
  fun_induction encode a octets with
  | case1 => cases h
  | case2 x n =>
    have hx : x.toNat < 256 := x.toNat_lt
    simp only [List.mem_cons, List.not_mem_nil, or_false] at h
    rcases h with h | h
    · exact ⟨_, by omega, h⟩
    · exact ⟨_, by omega, h⟩
  | case3 x y n =>
    have hx : x.toNat < 256 := x.toNat_lt
    have hy : y.toNat < 256 := y.toNat_lt
    simp only [List.mem_cons, List.not_mem_nil, or_false] at h
    rcases h with h | h | h
    · exact ⟨_, by omega, h⟩
    · exact ⟨_, by omega, h⟩
    · exact ⟨_, by omega, h⟩
  | case4 x y z rest n ih =>
    have hx : x.toNat < 256 := x.toNat_lt
    have hy : y.toNat < 256 := y.toNat_lt
    have hz : z.toNat < 256 := z.toNat_lt
    simp only [List.mem_cons] at h
    rcases h with h | h | h | h | h
    · exact ⟨_, by omega, h⟩
    · exact ⟨_, by omega, h⟩
    · exact ⟨_, by omega, h⟩
    · exact ⟨_, by omega, h⟩
    · exact ih h

/-- A character without a value does not occur. -/
theorem not_mem_encode {a : Alphabet} {c : Char} (h : a.value? c = none) (octets : List UInt8) :
    c ∉ encode a octets := by
  intro hmem
  obtain ⟨n, hn, rfl⟩ := exists_char_of_mem_encode hmem
  rw [value?_char a hn] at h
  cases h

/-- What all characters of an alphabet have in common, all characters of a text have. -/
theorem all_encode {a : Alphabet} {p : Char → Bool} (h : ∀ n : Fin 64, p (a.char n) = true)
    (octets : List UInt8) : (encode a octets).all p = true := by
  refine List.all_eq_true.2 fun c hmem => ?_
  obtain ⟨n, hn, rfl⟩ := exists_char_of_mem_encode hmem
  exact h ⟨n, hn⟩

theorem length_encode (a : Alphabet) (octets : List UInt8) :
    (encode a octets).length = (4 * octets.length + 2) / 3 := by
  fun_induction encode a octets with
  | case1 | case2 | case3 => simp
  | case4 x y z rest n ih =>
    simp only [List.length_cons, ih]
    omega

end Base64
end Text
end SessionAuth
