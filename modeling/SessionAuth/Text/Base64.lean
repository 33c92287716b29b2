/-!
# Base64 without padding

Three octets are written as four characters of an alphabet of sixty-four, and one or two octets that
remain as two or three characters, with no padding after them.  The unused low bits of the last
character are zero, and reading refuses a text in which they are not.  So every text has at most one
reading and every list of octets exactly one text:

* `decode_encode` says that reading undoes writing;
* `encode_of_decode` says that only written texts are read.
-/

set_option autoImplicit false

namespace SessionAuth
namespace Text
namespace Base64

/-- The two alphabets in use, which differ in their last two characters. -/
inductive Alphabet where
  /-- The alphabet that ends in `+` and `/`. -/
  | standard
  /-- The alphabet that ends in `-` and `_`, whose texts can stand in a URL. -/
  | url
  deriving DecidableEq, Repr

/-- The character of a value below sixty-four. -/
def Alphabet.char (a : Alphabet) (n : Nat) : Char :=
  if n < 26 then Char.ofNat ('A'.toNat + n)
  else if n < 52 then Char.ofNat ('a'.toNat + (n - 26))
  else if n < 62 then Char.ofNat ('0'.toNat + (n - 52))
  else match a with
    | .standard => if n = 62 then '+' else '/'
    | .url => if n = 62 then '-' else '_'

/-- The value of a character. -/
def Alphabet.value? (a : Alphabet) (c : Char) : Option Nat :=
  if 'A' ≤ c ∧ c ≤ 'Z' then some (c.toNat - 'A'.toNat)
  else if 'a' ≤ c ∧ c ≤ 'z' then some (c.toNat - 'a'.toNat + 26)
  else if '0' ≤ c ∧ c ≤ '9' then some (c.toNat - '0'.toNat + 52)
  else match a with
    | .standard => if c = '+' then some 62 else if c = '/' then some 63 else none
    | .url => if c = '-' then some 62 else if c = '_' then some 63 else none

/-- The text of a list of octets. -/
def encode (a : Alphabet) : List UInt8 → List Char
  | [] => []
  | [x] =>
    let n := x.toNat
    [a.char (n / 4), a.char (n % 4 * 16)]
  | [x, y] =>
    let n := x.toNat * 256 + y.toNat
    [a.char (n / 1024), a.char (n / 16 % 64), a.char (n % 16 * 4)]
  | x :: y :: z :: rest =>
    let n := x.toNat * 65536 + y.toNat * 256 + z.toNat
    a.char (n / 262144) :: a.char (n / 4096 % 64) :: a.char (n / 64 % 64) :: a.char (n % 64) ::
      encode a rest

/-- The octets that a text writes. -/
def decode (a : Alphabet) : List Char → Option (List UInt8)
  | [] => some []
  | [_] => none
  | [p, q] => do
    let n := (← a.value? p) * 64 + (← a.value? q)
    if n % 16 = 0 then some [UInt8.ofNat (n / 16)] else none
  | [p, q, r] => do
    let n := (← a.value? p) * 4096 + (← a.value? q) * 64 + (← a.value? r)
    if n % 4 = 0 then some [UInt8.ofNat (n / 1024), UInt8.ofNat (n / 4 % 256)] else none
  | p :: q :: r :: s :: rest => do
    let n := (← a.value? p) * 262144 + (← a.value? q) * 4096 + (← a.value? r) * 64 + (← a.value? s)
    let octets ← decode a rest
    some (UInt8.ofNat (n / 65536) :: UInt8.ofNat (n / 256 % 256) :: UInt8.ofNat (n % 256) :: octets)

theorem value?_char (a : Alphabet) {n : Nat} (h : n < 64) : a.value? (a.char n) = some n := by
  have key : ∀ i : Fin 64, a.value? (a.char i.val) = some i.val := by cases a <;> decide
  exact key ⟨n, h⟩

theorem decode_encode (a : Alphabet) (octets : List UInt8) :
    decode a (encode a octets) = some octets := by
  fun_induction encode a octets with
  | case1 => rfl
  | case2 x n =>
    have hx : x.toNat < 256 := x.toNat_lt
    simp only [decode, Option.bind_eq_bind, value?_char a (show n / 4 < 64 by omega),
      value?_char a (show n % 4 * 16 < 64 by omega), Option.bind_some]
    rw [if_pos (by omega), show (n / 4 * 64 + n % 4 * 16) / 16 = x.toNat by omega]
    simp
  | case3 x y n =>
    have hx : x.toNat < 256 := x.toNat_lt
    have hy : y.toNat < 256 := y.toNat_lt
    simp only [decode, Option.bind_eq_bind, value?_char a (show n / 1024 < 64 by omega),
      value?_char a (show n / 16 % 64 < 64 by omega), value?_char a (show n % 16 * 4 < 64 by omega),
      Option.bind_some]
    rw [if_pos (by omega),
      show (n / 1024 * 4096 + n / 16 % 64 * 64 + n % 16 * 4) / 1024 = x.toNat by omega,
      show (n / 1024 * 4096 + n / 16 % 64 * 64 + n % 16 * 4) / 4 % 256 = y.toNat by omega]
    simp
  | case4 x y z rest n ih =>
    have hx : x.toNat < 256 := x.toNat_lt
    have hy : y.toNat < 256 := y.toNat_lt
    have hz : z.toNat < 256 := z.toNat_lt
    have hn : n / 262144 * 262144 + n / 4096 % 64 * 4096 + n / 64 % 64 * 64 + n % 64 = n := by omega
    simp only [decode, Option.bind_eq_bind, value?_char a (show n / 262144 < 64 by omega),
      value?_char a (show n / 4096 % 64 < 64 by omega),
      value?_char a (show n / 64 % 64 < 64 by omega), value?_char a (show n % 64 < 64 by omega),
      Option.bind_some, ih, hn]
    rw [show n / 65536 = x.toNat by omega, show n / 256 % 256 = y.toNat by omega,
      show n % 256 = z.toNat by omega]
    simp

theorem value?_lt {a : Alphabet} {c : Char} {n : Nat} (h : a.value? c = some n) : n < 64 := by
  simp only [Alphabet.value?, Char.le_def, UInt32.le_iff_toNat_le] at h
  split at h
  · rename_i hc
    have h1 : c.toNat ≤ 90 := hc.2
    have h2 : c.toNat - 65 = n := Option.some.inj h
    omega
  · split at h
    · rename_i hc
      have h1 : c.toNat ≤ 122 := hc.2
      have h2 : c.toNat - 97 + 26 = n := Option.some.inj h
      omega
    · split at h
      · rename_i hc
        have h1 : c.toNat ≤ 57 := hc.2
        have h2 : c.toNat - 48 + 52 = n := Option.some.inj h
        omega
      · cases a <;> simp only at h <;> (repeat' split at h) <;>
          simp only [Option.some.injEq, reduceCtorEq] at h <;> omega

theorem char_of_value? {a : Alphabet} {c : Char} {n : Nat} (h : a.value? c = some n) :
    a.char n = c := by
  have inj : ∀ m : Nat, c.toNat = m → m.isValidChar → Char.ofNat m = c := by
    rintro m rfl _
    exact Char.ofNat_toNat c
  simp only [Alphabet.value?, Char.le_def, UInt32.le_iff_toNat_le] at h
  unfold Alphabet.char
  split at h
  · rename_i hc
    simp only [Option.some.injEq] at h
    have h1 : 65 ≤ c.toNat ∧ c.toNat ≤ 90 := hc
    have h2 : c.toNat - 65 = n := h
    rw [if_pos (by omega)]
    exact inj _ (show c.toNat = 65 + n by omega) (.inl (show 65 + n < _ by omega))
  · split at h
    · rename_i hc
      simp only [Option.some.injEq] at h
      have h1 : 97 ≤ c.toNat ∧ c.toNat ≤ 122 := hc
      have h2 : c.toNat - 97 + 26 = n := h
      rw [if_neg (by omega), if_pos (by omega)]
      exact inj _ (show c.toNat = 97 + (n - 26) by omega) (.inl (show 97 + (n - 26) < _ by omega))
    · split at h
      · rename_i hc
        simp only [Option.some.injEq] at h
        have h1 : 48 ≤ c.toNat ∧ c.toNat ≤ 57 := hc
        have h2 : c.toNat - 48 + 52 = n := h
        rw [if_neg (by omega), if_neg (by omega), if_pos (by omega)]
        exact inj _ (show c.toNat = 48 + (n - 52) by omega)
          (.inl (show 48 + (n - 52) < _ by omega))
      · cases a <;> simp only at h <;> (repeat' split at h) <;>
          simp only [Option.some.injEq, reduceCtorEq] at h <;> subst h <;> simp_all

theorem encode_of_decode {a : Alphabet} {text : List Char} {octets : List UInt8}
    (h : decode a text = some octets) : encode a octets = text := by
  fun_induction decode a text generalizing octets with
  | case1 => simp_all [encode]
  | case2 => simp at h
  | case3 p q =>
    simp only [Option.bind_eq_bind, Option.bind_eq_some_iff] at h
    obtain ⟨vp, hp, vq, hq, h⟩ := h
    split at h
    · rename_i hz
      have h1 := value?_lt hp
      have h2 := value?_lt hq
      simp only [Option.some.injEq] at h
      subst h
      have hb : (UInt8.ofNat ((vp * 64 + vq) / 16)).toNat = (vp * 64 + vq) / 16 := by
        rw [UInt8.toNat_ofNat']
        exact Nat.mod_eq_of_lt (by omega)
      simp only [encode, hb]
      rw [show (vp * 64 + vq) / 16 / 4 = vp by omega,
        show (vp * 64 + vq) / 16 % 4 * 16 = vq by omega, char_of_value? hp, char_of_value? hq]
    · simp at h
  | case4 p q r =>
    simp only [Option.bind_eq_bind, Option.bind_eq_some_iff] at h
    obtain ⟨vp, hp, vq, hq, vr, hr, h⟩ := h
    split at h
    · rename_i hz
      have h1 := value?_lt hp
      have h2 := value?_lt hq
      have h3 := value?_lt hr
      simp only [Option.some.injEq] at h
      subst h
      have hb : ∀ m : Nat, m < 256 → (UInt8.ofNat m).toNat = m := fun m hm => by
        rw [UInt8.toNat_ofNat']
        exact Nat.mod_eq_of_lt (by omega)
      simp only [encode]
      rw [hb _ (by omega), hb _ (by omega)]
      rw [show ((vp * 4096 + vq * 64 + vr) / 1024 * 256 + (vp * 4096 + vq * 64 + vr) / 4 % 256) /
          1024 = vp by omega,
        show ((vp * 4096 + vq * 64 + vr) / 1024 * 256 + (vp * 4096 + vq * 64 + vr) / 4 % 256) / 16 %
          64 = vq by omega,
        show ((vp * 4096 + vq * 64 + vr) / 1024 * 256 + (vp * 4096 + vq * 64 + vr) / 4 % 256) % 16 *
          4 = vr by omega,
        char_of_value? hp, char_of_value? hq, char_of_value? hr]
    · simp at h
  | case5 p q r s rest ih =>
    simp only [Option.bind_eq_bind, Option.bind_eq_some_iff] at h
    obtain ⟨vp, hp, vq, hq, vr, hr, vs, hs, os, hos, h⟩ := h
    have h1 := value?_lt hp
    have h2 := value?_lt hq
    have h3 := value?_lt hr
    have h4 := value?_lt hs
    simp only [Option.some.injEq] at h
    subst h
    have hb : ∀ m : Nat, m < 256 → (UInt8.ofNat m).toNat = m := fun m hm => by
      rw [UInt8.toNat_ofNat']
      exact Nat.mod_eq_of_lt (by omega)
    generalize hn : vp * 262144 + vq * 4096 + vr * 64 + vs = n
    simp only [encode]
    rw [hb _ (by omega), hb _ (by omega), hb _ (by omega), ih hos]
    have hw : n / 65536 * 65536 + n / 256 % 256 * 256 + n % 256 = n := by
      clear hn
      omega
    rw [hw]
    rw [show n / 262144 = vp by omega, show n / 4096 % 64 = vq by omega,
      show n / 64 % 64 = vr by omega, show n % 64 = vs by omega,
      char_of_value? hp, char_of_value? hq, char_of_value? hr, char_of_value? hs]

end Base64
end Text
end SessionAuth
