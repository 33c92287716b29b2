/-!
# Decimal integers in text

Whole numbers are written with the fewest digits.  Reading accepts one sign and leading zeros, which
writing never produces, so `readInt?_writeInt` holds but not its converse.
-/

set_option autoImplicit false

namespace SessionAuth
namespace Text

/-- The value of a decimal digit. -/
def digitValue? (c : Char) : Option Nat :=
  if '0' ≤ c ∧ c ≤ '9' then some (c.toNat - '0'.toNat) else none

/-- The digit of a value below ten. -/
def digitChar (n : Nat) : Char := Char.ofNat ('0'.toNat + n % 10)

/-- The number that a list of digits writes, after digits that already stand for `acc`. -/
def readDigits (acc : Nat) : List Char → Option Nat
  | [] => some acc
  | c :: cs => (digitValue? c).bind fun d => readDigits (acc * 10 + d) cs

/-- The number that a non-empty list of digits writes. -/
def readDigits? : List Char → Option Nat
  | [] => none
  | c :: cs => readDigits 0 (c :: cs)

/-- The digits of a number, with the fewest of them. -/
def writeDigits (n : Nat) : List Char :=
  if n < 10 then [digitChar n] else writeDigits (n / 10) ++ [digitChar n]

/-- The decimal text of a natural number. -/
def writeNat (n : Nat) : String := String.ofList (writeDigits n)

/-- The decimal text of an integer. -/
def writeInt (i : Int) : String :=
  if i < 0 then String.ofList ('-' :: writeDigits i.natAbs) else writeNat i.natAbs

/-- The natural number written in a text, with an optional plus sign in front. -/
def readNat? (s : String) : Option Nat :=
  match s.toList with
  | '+' :: cs => readDigits? cs
  | cs => readDigits? cs

/-- The integer written in a text, with an optional sign in front. -/
def readInt? (s : String) : Option Int :=
  match s.toList with
  | '-' :: cs => (readDigits? cs).map fun n => -(n : Int)
  | '+' :: cs => (readDigits? cs).map Int.ofNat
  | cs => (readDigits? cs).map Int.ofNat

/-- The least integer of sixty-four bits. -/
def minInt64 : Int := -9223372036854775808

/-- The greatest integer of sixty-four bits. -/
def maxInt64 : Int := 9223372036854775807

/-- The integer of sixty-four bits that is written in a text. -/
def readInt64? (s : String) : Option Int :=
  (readInt? s).filter fun i => decide (minInt64 ≤ i ∧ i ≤ maxInt64)

/-- A number with zeros in front, so that it has at least the given number of digits. -/
def padded (width n : Nat) : List Char :=
  let ds := writeDigits n
  List.replicate (width - ds.length) '0' ++ ds

theorem digitValue?_digitChar (n : Nat) : digitValue? (digitChar n) = some (n % 10) := by
  have h : n % 10 < 10 := Nat.mod_lt _ (by decide)
  have key : ∀ d : Fin 10, digitValue? (Char.ofNat ('0'.toNat + d.val)) = some d.val := by decide
  exact key ⟨n % 10, h⟩

theorem readDigits_append (acc : Nat) (cs ds : List Char) :
    readDigits acc (cs ++ ds) = (readDigits acc cs).bind fun a => readDigits a ds := by
  induction cs generalizing acc with
  | nil => rfl
  | cons c cs ih =>
    simp only [List.cons_append, readDigits]
    cases digitValue? c with
    | none => rfl
    | some d => exact ih _

theorem writeDigits_ne_nil (n : Nat) : writeDigits n ≠ [] := by
  rw [writeDigits]
  split <;> simp

theorem readDigits_writeDigits (n : Nat) : readDigits 0 (writeDigits n) = some n := by
  induction n using Nat.strongRecOn with
  | _ n ih =>
    rw [writeDigits]
    split
    · rename_i h
      simp [readDigits, digitValue?_digitChar, Nat.mod_eq_of_lt h]
    · rename_i h
      rw [readDigits_append, ih (n / 10) (by omega)]
      simp only [Option.bind_some, readDigits, digitValue?_digitChar]
      congr 1
      omega

theorem readDigits?_writeDigits (n : Nat) : readDigits? (writeDigits n) = some n := by
  have h := readDigits_writeDigits n
  cases hw : writeDigits n with
  | nil => exact absurd hw (writeDigits_ne_nil n)
  | cons c cs => rw [hw] at h; exact h

theorem isDigit_of_mem_writeDigits {n : Nat} {c : Char} (h : c ∈ writeDigits n) :
    (digitValue? c).isSome := by
  induction n using Nat.strongRecOn with
  | _ n ih =>
    rw [writeDigits] at h
    split at h
    · simp only [List.mem_singleton] at h
      rw [h, digitValue?_digitChar]; rfl
    · rename_i hn
      simp only [List.mem_append, List.mem_singleton] at h
      rcases h with h | h
      · exact ih (n / 10) (by omega) h
      · rw [h, digitValue?_digitChar]; rfl

theorem readInt?_writeInt (i : Int) : readInt? (writeInt i) = some i := by
  have hs : ∀ (c : Char) (cs : List Char) (n : Nat), writeDigits n = c :: cs →
      c ≠ '-' ∧ c ≠ '+' := by
    intro c cs n h
    have := isDigit_of_mem_writeDigits (n := n) (c := c) (by rw [h]; simp)
    constructor <;> (rintro rfl; simp [digitValue?] at this)
  by_cases hi : i < 0
  · simp only [readInt?, writeInt, hi, if_true, String.toList_ofList, readDigits?_writeDigits]
    show some (-(i.natAbs : Int)) = some i
    congr 1
    omega
  · simp only [readInt?, writeInt, writeNat, hi, if_false, String.toList_ofList]
    have hr := readDigits?_writeDigits i.natAbs
    split
    · rename_i cs h
      exact absurd rfl (hs _ _ _ h).1
    · rename_i cs h
      exact absurd rfl (hs _ _ _ h).2
    · rw [hr]
      simp only [Option.map_some, Option.some.injEq]
      show (i.natAbs : Int) = i
      omega

end Text
end SessionAuth
