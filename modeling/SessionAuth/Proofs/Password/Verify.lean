import SessionAuth.Password.Hasher
import SessionAuth.Proofs.Text.Base64

/-!
# Passwords are verified against their hashes

The stored form of a hash carries all that it was computed with, so that a password is verified by
computing the hash again.  `verify_hashNew` follows a hash through its text: the fields are cut
where they were joined, the cost of the hash is read back, and so are salt and hash, whatever the
password and the salt are.
-/

set_option autoImplicit false

namespace SessionAuth

/-! ## The length of hashes -/

namespace Crypto

@[simp] theorem length_littleEndian (width n : Nat) : (littleEndian width n).length = width := by
  induction width generalizing n with
  | zero => rfl
  | succ width ih => rw [littleEndian, List.length_cons, ih]

namespace Blake2b

/-- A state keeps its eight words. -/
theorem length_compress {state : List UInt64} (h : state.length = 8) (block : List UInt8)
    (count : Nat) (last : Bool) : (compress state block count last).length = 8 := by
  simp only [compress, List.length_zipWith, List.length_take, List.length_drop, Words.toList, h]
  rfl

theorem length_absorb {state : List UInt64} (h : state.length = 8) (count : Nat)
    (blocks : List (List UInt8)) : (absorb state count blocks).length = 8 := by
  fun_induction absorb state count blocks with
  | case1 => exact h
  | case2 => exact length_compress h _ _ _
  | case3 _ _ _ _ _ ih => exact ih (length_compress h _ _ _)

end Blake2b

theorem length_blake2b {size : Nat} (h : size ≤ 64) (message : List UInt8) :
    (blake2b size message).length = size := by
  have hwords : ∀ ws : List UInt64,
      (ws.flatMap fun w => littleEndian 8 w.toNat).length = 8 * ws.length := by
    intro ws
    induction ws with
    | nil => rfl
    | cons w ws ih =>
      rw [List.flatMap_cons, List.length_append, ih, length_littleEndian, List.length_cons]
      omega
  simp only [blake2b, Blake2b.initial, List.length_take, hwords]
  rw [Blake2b.length_absorb rfl]
  omega

/-- A hash of a password is as long as its parameters say. -/
theorem Argon2.length_hash {p : Params} (h : p.length ≤ 64) (variant : Variant) (version : Version)
    (password salt : List UInt8) : (hash variant version p password salt).length = p.length := by
  simp only [hash, longHash, if_pos h]
  exact length_blake2b h _

end Crypto

/-! ## The fields of a stored hash -/

namespace Password

open Text Crypto

/-- The text of the hash of a new password, field by field. -/
theorem toText_store (salt hash : List UInt8) :
    (Recipe.store ⟨.id, .v19, .default, salt⟩ hash).toText.toList =
      '$' :: ("argon2id".toList ++ '$' :: ("v=19".toList ++ '$' ::
        ("m=19456,t=2,p=1".toList ++ '$' :: (Base64.encode .standard salt ++ '$' ::
          Base64.encode .standard hash)))) := by
  have hmemory : writeNat 19456 = "19456" := by simp [writeNat, writeDigits, digitChar]
  have hpasses : writeNat 2 = "2" := by simp [writeNat, writeDigits, digitChar]
  have hlanes : writeNat 1 = "1" := by simp [writeNat, writeDigits, digitChar]
  have hversion : writeNat 19 = "19" := by simp [writeNat, writeDigits, digitChar]
  simp [Recipe.store, Stored.toText, Argon2.Params.default, Argon2.Version.number,
    Argon2.Variant.name, hmemory, hpasses, hlanes, hversion]

/-- A text in Base64 may stand in the field of the salt, if it is neither too short nor too long. -/
theorem salt?_encode {salt : List UInt8} (hmin : 3 ≤ salt.length) (hmax : salt.length ≤ 48) :
    Stored.salt? (Base64.encode .standard salt) =
      some (String.ofList (Base64.encode .standard salt)) := by
  have hchars : (Base64.encode .standard salt).all Stored.isValueChar = true :=
    Base64.all_encode (by decide) salt
  have hlength := Base64.length_encode .standard salt
  rw [Stored.salt?, Stored.isValue, hchars, hlength, if_pos]
  simp only [Bool.and_true, Bool.and_eq_true, decide_eq_true_eq]
  omega

/-- The stored form of a hash is read back from its text. -/
theorem ofText?_store {salt hash : List UInt8} (hmin : 3 ≤ salt.length) (hmax : salt.length ≤ 48)
    (hhash : 10 ≤ hash.length ∧ hash.length ≤ 64) :
    Stored.ofText? (Recipe.store ⟨.id, .v19, .default, salt⟩ hash).toText =
      some ⟨"argon2id", some 19, [("m", "19456"), ("t", "2"), ("p", "1")],
        some (String.ofList (Base64.encode .standard salt)), some hash⟩ := by
  have hdollar : ∀ bs, '$' ∉ Base64.encode .standard bs := Base64.not_mem_encode (by decide)
  have hparams : Stored.params? "m=19456,t=2,p=1".toList =
      some [("m", "19456"), ("t", "2"), ("p", "1")] := by decide
  have hdecode : Stored.hash? (Base64.encode .standard hash) = some hash := by
    simp [Stored.hash?, Base64.decode_encode, hhash]
  have hempty : ∀ cs, split '$' ('$' :: cs) = [] :: split '$' cs := split_append List.not_mem_nil
  rw [Stored.ofText?, toText_store, hempty, split_append (by decide), split_append (by decide),
    split_append (by decide), split_append (hdollar salt), split_of_not_mem (hdollar hash)]
  have hname : Stored.isName "argon2id".toList = true := by decide
  have hversion : Stored.version? "v=19".toList = some (some 19) := by decide
  have hassign : "m=19456,t=2,p=1".toList.contains '=' = true := by decide
  simp only [hname, hversion, if_true, Option.bind_eq_bind, Option.bind_some, Stored.ofParams?,
    hassign, hparams, Stored.ofTail?, salt?_encode hmin hmax, hdecode, String.ofList_toList]

/-- The recipe of a hash is read back from its stored form. -/
theorem ofStored?_store {salt : List UInt8} (hsalt : 8 ≤ salt.length) (hash : Option (List UInt8)) :
    Recipe.ofStored? ⟨"argon2id", some 19, [("m", "19456"), ("t", "2"), ("p", "1")],
        some (String.ofList (Base64.encode .standard salt)), hash⟩
        (String.ofList (Base64.encode .standard salt)) 32 =
      some ⟨.id, .v19, .default, salt⟩ := by
  have hvariant : Argon2.Variant.byName.lookup "argon2id" = some .id := by decide
  have hparams : [("m", "19456"), ("t", "2"), ("p", "1")].foldlM
      (fun p (x : String × String) => Recipe.setParam p x.1 x.2)
      { Argon2.Params.default with length := 32 } = some Argon2.Params.default := by decide
  have hvalid : Argon2.Params.default.isValid = true := by decide
  simp [Recipe.ofStored?, hvariant, Argon2.Version.ofNumber?, hparams, Base64.decode_encode, hvalid,
    hsalt]

/-- A password is compared with a stored hash by its own hash. -/
theorem verify_store {salt hash : List UInt8} (hmin : 8 ≤ salt.length) (hmax : salt.length ≤ 48)
    (hhash : hash.length = 32) (password : String) :
    verify password (Recipe.store ⟨.id, .v19, .default, salt⟩ hash).toText =
      .ok (Recipe.hash ⟨.id, .v19, .default, salt⟩ password == hash) := by
  simp only [verify]
  rw [ofText?_store (by omega) hmax (by omega)]
  simp [hhash, ofStored?_store hmin]

theorem length_hash_default (salt : List UInt8) (password : String) :
    (Recipe.hash ⟨.id, .v19, .default, salt⟩ password).length = 32 :=
  Argon2.length_hash (p := .default) (by decide) _ _ _ _

/-- **A password has its own hash.**  So it does with every salt of a sensible length. -/
theorem verify_hashNew {salt : List UInt8} (hmin : 8 ≤ salt.length) (hmax : salt.length ≤ 48)
    (password : String) : verify password (hashNew salt password) = .ok true := by
  rw [hashNew, verify_store hmin hmax (length_hash_default salt password), beq_self_eq_true]

/-! ## Hashes that can be compared with -/

/-- Whether a text is that of a stored hash, and the fields that a hash is computed from make
sense. -/
def IsWellFormed (stored : String) : Prop :=
  ∃ s, Stored.ofText? stored = some s ∧ ∀ salt hash, s.salt = some salt → s.hash = some hash →
    (Recipe.ofStored? s salt hash.length).isSome

/-- The well-formed hashes are those with which a password can be compared. -/
theorem exists_verify_eq_ok_iff {stored : String} (password : String) :
    (∃ matched, verify password stored = .ok matched) ↔ IsWellFormed stored := by
  rw [verify, IsWellFormed]
  cases htext : Stored.ofText? stored with
  | none => simp
  | some s =>
    rcases hsalt : s.salt with _ | salt
    · simp [hsalt]
    rcases hhash : s.hash with _ | hash
    · simp [hhash]
    cases hrecipe : Recipe.ofStored? s salt hash.length <;> simp [hsalt, hhash, hrecipe]

/-- The hash of a new password is well-formed. -/
theorem isWellFormed_hashNew {salt : List UInt8} (hmin : 8 ≤ salt.length)
    (hmax : salt.length ≤ 48) (password : String) : IsWellFormed (hashNew salt password) :=
  (exists_verify_eq_ok_iff password).1 ⟨true, verify_hashNew hmin hmax password⟩

end Password
end SessionAuth
