import SessionAuth.Text.Hex
import SessionAuth.Text.Slice

/-!
# Universally unique identifiers

A `Uuid` is a number of 128 bits, written as 32 hexadecimal digits in groups of 8, 4, 4, 4 and 12
that are joined by hyphens.  `ofText?` reads this form, the same in braces, the same after
`urn:uuid:`, and the 32 digits alone, with letters of either case; `ofText?_toText` says that the
written form reads back.

Identifiers of version 7 begin with the milliseconds since the epoch, so that their written forms
sort by the time they were made.
-/

set_option autoImplicit false

namespace SessionAuth

/-- A number of 128 bits that identifies something. -/
structure Uuid where
  bits : BitVec 128
  deriving DecidableEq, Inhabited

namespace Uuid

open Text

/-- The identifier of nothing. -/
def nil : Uuid := ⟨0⟩

/-- Whether an identifier is the one of nothing. -/
def isNil (u : Uuid) : Bool := u.bits == 0

theorem isNil_iff {u : Uuid} : u.isNil ↔ u = nil := by
  cases u
  simp [isNil, nil]

instance : Ord Uuid := ⟨fun a b => compare a.bits.toNat b.bits.toNat⟩

instance : Std.TransOrd Uuid :=
  inferInstanceAs (Std.TransCmp (compareOn fun u : Uuid => u.bits.toNat))

instance : Std.LawfulEqOrd Uuid where
  eq_of_compare {u v} h := by
    have hbits : compare u.bits.toNat v.bits.toNat = .eq := h
    have hbits := Std.LawfulEqCmp.eq_of_compare hbits
    cases u
    cases v
    exact congrArg mk (BitVec.eq_of_toNat_eq hbits)

/-- The 32 digits of an identifier. -/
def digits (u : Uuid) : List Char := Hex.write 32 u.bits.toNat

/-- The sizes of the groups of digits. -/
def groups : List Nat := [8, 4, 4, 4, 12]

/-- Puts a hyphen after each group but the last. -/
def hyphenate : List Nat → List Char → List Char
  | n :: m :: sizes, cs => cs.take n ++ '-' :: hyphenate (m :: sizes) (cs.drop n)
  | _, cs => cs

/-- Removes the hyphen after each group but the last; `none` if there is none at its place. -/
def dehyphenate? : List Nat → List Char → Option (List Char)
  | n :: m :: sizes, cs =>
    match cs.drop n with
    | '-' :: rest => (dehyphenate? (m :: sizes) rest).map (cs.take n ++ ·)
    | _ => none
  | _, cs => some cs

/-- The written form of an identifier. -/
def toText (u : Uuid) : String := String.ofList (hyphenate groups u.digits)

/-- The identifier with the given 32 digits. -/
def ofDigits? (cs : List Char) : Option Uuid :=
  if cs.length = 32 then (Hex.read? cs).map fun n => ⟨BitVec.ofNat 128 n⟩ else none

/-- The identifier written in groups. -/
def ofHyphenated? (cs : List Char) : Option Uuid :=
  if cs.length = 36 then (dehyphenate? groups cs).bind ofDigits? else none

/-- The identifier that a text writes in one of the accepted forms. -/
def ofText? (s : String) : Option Uuid :=
  let cs := s.toList
  if cs.length = 32 then ofDigits? cs
  else if cs.length = 36 then ofHyphenated? cs
  else if cs.length = 38 then
    match stripStart ['{'] cs, stripStart ['}'] cs.reverse with
    | some rest, some _ => ofHyphenated? (rest.take 36)
    | _, _ => none
  else if cs.length = 45 ∧ (cs.take 9).map asciiLower = "urn:uuid:".toList then
    ofHyphenated? (cs.drop 9)
  else none

/-- The identifier of version 7 made at a time in milliseconds since the epoch; `tail` fills the
bits that follow. -/
def version7 (millis tail : Nat) : Uuid :=
  let high := millis % 0x1000000000000 * 0x10000 + 0x7000 + tail / 0x4000000000000000 % 0x1000
  let low := 0x8000000000000000 + tail % 0x4000000000000000
  ⟨BitVec.ofNat 128 (high * 0x10000000000000000 + low)⟩

/-- The version that an identifier carries in its thirteenth digit. -/
def version (u : Uuid) : Nat := u.bits.toNat / 0x10000000000000000000 % 16

/-- The identifier that follows in numerical order. -/
def succ (u : Uuid) : Uuid := ⟨u.bits + 1⟩

theorem length_hyphenate {sizes : List Nat} {cs : List Char} (hs : sizes ≠ [])
    (h : cs.length = sizes.foldr (· + ·) 0) :
    (hyphenate sizes cs).length = cs.length + (sizes.length - 1) := by
  fun_induction hyphenate sizes cs with
  | case1 n m sizes cs ih =>
    simp only [List.foldr_cons] at h
    have := ih (by simp) (by simp only [List.length_drop, List.foldr_cons]; omega)
    simp only [List.length_append, List.length_take, List.length_cons, this, List.length_drop]
    omega
  | case2 sizes cs hne =>
    match sizes, hs, hne with
    | [n], _, _ => simp
    | n :: m :: sizes, _, hne => exact absurd rfl (hne n m sizes)

theorem dehyphenate?_hyphenate {sizes : List Nat} {cs : List Char}
    (h : cs.length = sizes.foldr (· + ·) 0) :
    dehyphenate? sizes (hyphenate sizes cs) = some cs := by
  fun_induction hyphenate sizes cs with
  | case1 n m sizes cs ih =>
    simp only [List.foldr_cons] at h
    have hl : (cs.take n).length = n := by simp only [List.length_take]; omega
    have := ih (by simp only [List.length_drop, List.foldr_cons]; omega)
    rw [dehyphenate?, List.drop_left' hl, List.take_left' hl]
    simp only [this, Option.map_some, List.take_append_drop]
  | case2 sizes cs hne =>
    unfold dehyphenate?
    split
    · exact absurd rfl (hne _ _ _)
    · rfl

theorem ofDigits?_digits (u : Uuid) : ofDigits? u.digits = some u := by
  have h : u.bits.toNat % Nat.pow 16 32 = u.bits.toNat := Nat.mod_eq_of_lt u.bits.isLt
  rw [ofDigits?, digits, Hex.read?_write, h]
  simp

theorem length_toText (u : Uuid) : u.toText.toList.length = 36 := by
  rw [toText, String.toList_ofList,
    length_hyphenate (by decide) (by rw [digits, Hex.length_write]; rfl), digits,
    Hex.length_write]
  rfl

/-- The written form of an identifier reads back. -/
theorem ofText?_toText (u : Uuid) : ofText? u.toText = some u := by
  have hl := u.length_toText
  simp only [ofText?, hl, ofHyphenated?]
  simp only [toText, String.toList_ofList]
  rw [dehyphenate?_hyphenate (by rw [digits, Hex.length_write]; rfl)]
  simpa using u.ofDigits?_digits

theorem toText_injective {u v : Uuid} (h : u.toText = v.toText) : u = v := by
  have := u.ofText?_toText
  rw [h, ofText?_toText] at this
  exact (Option.some.inj this).symm

end Uuid

/-- The identifier of a user. -/
abbrev UserId := Uuid

end SessionAuth
