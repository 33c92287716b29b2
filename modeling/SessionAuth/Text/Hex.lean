/-!
# Hexadecimal digits

Numbers are written with lower-case digits and a fixed width; digits of either case are read.
-/

set_option autoImplicit false

namespace SessionAuth
namespace Text
namespace Hex

/-- The lower-case digit of a value below sixteen. -/
def char (n : Nat) : Char :=
  if n < 10 then Char.ofNat ('0'.toNat + n) else Char.ofNat ('a'.toNat + (n - 10))

/-- The value of a digit of either case. -/
def value? (c : Char) : Option Nat :=
  if '0' ≤ c ∧ c ≤ '9' then some (c.toNat - '0'.toNat)
  else if 'a' ≤ c ∧ c ≤ 'f' then some (c.toNat - 'a'.toNat + 10)
  else if 'A' ≤ c ∧ c ≤ 'F' then some (c.toNat - 'A'.toNat + 10)
  else none

/-- The last `width` digits of a number. -/
def write : Nat → Nat → List Char
  | 0, _ => []
  | width + 1, n => write width (n / 16) ++ [char (n % 16)]

/-- The number that a list of digits writes, after digits that already stand for `acc`. -/
def readFrom (acc : Nat) : List Char → Option Nat
  | [] => some acc
  | c :: cs => (value? c).bind fun d => readFrom (acc * 16 + d) cs

/-- The number that a list of digits writes. -/
def read? (cs : List Char) : Option Nat := readFrom 0 cs

theorem value?_char {n : Nat} (h : n < 16) : value? (char n) = some n := by
  have key : ∀ d : Fin 16, value? (char d.val) = some d.val := by decide
  exact key ⟨n, h⟩

@[simp] theorem length_write (width n : Nat) : (write width n).length = width := by
  induction width generalizing n with
  | zero => rfl
  | succ w ih => simp [write, ih]

theorem readFrom_append (acc : Nat) (cs ds : List Char) :
    readFrom acc (cs ++ ds) = (readFrom acc cs).bind fun a => readFrom a ds := by
  induction cs generalizing acc with
  | nil => rfl
  | cons c cs ih =>
    simp only [List.cons_append, readFrom]
    cases value? c with
    | none => rfl
    | some d => exact ih _

theorem read?_write (width n : Nat) : read? (write width n) = some (n % Nat.pow 16 width) := by
  induction width generalizing n with
  | zero => simp [write, read?, readFrom, Nat.mod_one]
  | succ w ih =>
    simp only [read?] at ih ⊢
    rw [write, readFrom_append, ih]
    simp only [Option.bind_some, readFrom, value?_char (Nat.mod_lt n (by decide : 0 < 16))]
    congr 1
    rw [show Nat.pow 16 (w + 1) = 16 * Nat.pow 16 w from Nat.mul_comm _ _, Nat.mod_mul,
      Nat.mul_comm]
    omega

end Hex
end Text
end SessionAuth
