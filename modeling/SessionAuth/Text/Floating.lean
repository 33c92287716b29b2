import SessionAuth.Text.Decimal
import SessionAuth.Text.Slice

/-!
# Floating-point numbers of sixty-four bits

A decimal number is rounded to the nearest floating-point number, a tie to the one with an even
significand.  Such a number is written with the fewest digits that round back to it, and without an
exponent.
-/

set_option autoImplicit false

namespace SessionAuth
namespace Text

/-- A floating-point number of sixty-four bits. -/
inductive Floating where
  /-- The number `significand * 2 ^ exponent`, with its sign. -/
  | finite (negative : Bool) (significand : Nat) (exponent : Int)
  | infinite (negative : Bool)
  | notANumber
  deriving DecidableEq, Repr, Inhabited

namespace Floating

/-- A quotient rounded to the nearest integer, a tie to the even one. -/
def roundEven (num den : Nat) : Nat :=
  let q := num / den
  let r := num % den
  if 2 * r < den then q else if den < 2 * r then q + 1 else q + q % 2

/-- The quotient `num / den` divided by `2 ^ exponent`, as a fraction again. -/
def scale (num den : Nat) (exponent : Int) : Nat × Nat :=
  if 0 ≤ exponent then (num, den * Nat.pow 2 exponent.toNat)
  else (num * Nat.pow 2 exponent.natAbs, den)

/-- The floating-point number nearest to a positive fraction. -/
def ofFraction (negative : Bool) (num den : Nat) : Floating :=
  let guess : Int := (Nat.log2 num : Int) - Nat.log2 den - 52
  let fits (e : Int) : Bool :=
    let (n, d) := scale num den e
    n < d * Nat.pow 2 53
  let exponent := max
    (if fits (guess - 1) then guess - 1 else if fits guess then guess else guess + 1)
    (-1074)
  let (n, d) := scale num den exponent
  let significand := roundEven n d
  let (significand, exponent) :=
    if significand = Nat.pow 2 53 then (Nat.pow 2 52, exponent + 1) else (significand, exponent)
  if 971 < exponent then infinite negative else finite negative significand exponent

/-- The floating-point number nearest to `mantissa * 10 ^ exponent`. -/
def ofDecimal (negative : Bool) (mantissa : Nat) (exponent : Int) : Floating :=
  let size : Int := (writeDigits mantissa).length + exponent
  if mantissa = 0 ∨ size < -400 then finite negative 0 0
  else if 400 < size then infinite negative
  else if 0 ≤ exponent then ofFraction negative (mantissa * Nat.pow 10 exponent.toNat) 1
  else ofFraction negative mantissa (Nat.pow 10 exponent.natAbs)

/-! ## Text -/

/-- Whether `n * 10 ^ k` rounds to `m * 2 ^ q`, where `m` is not zero. -/
def roundsTo (m : Nat) (q : Int) (n : Nat) (k : Int) : Bool :=
  -- all numbers are taken times `4 * 2 ^ -q * 10 ^ -k` where these are whole
  let two := fun (a : Nat) => if 0 ≤ q then a * Nat.pow 2 q.toNat else a
  let twoBack := fun (a : Nat) => if 0 ≤ q then a else a * Nat.pow 2 q.natAbs
  let ten := fun (a : Nat) => if 0 ≤ k then a * Nat.pow 10 k.toNat else a
  let tenBack := fun (a : Nat) => if 0 ≤ k then a else a * Nat.pow 10 k.natAbs
  let value := twoBack (ten (4 * n))
  let below := if m = Nat.pow 2 52 ∧ -1074 < q then 4 * m - 1 else 4 * m - 2
  let low := two (tenBack below)
  let high := two (tenBack (4 * m + 2))
  if m % 2 = 0 then low ≤ value && value ≤ high else low < value && value < high

/-- The fraction that `m * 2 ^ q` is when it is divided by `10 ^ k`. -/
def onGrid (m : Nat) (q k : Int) : Nat × Nat :=
  let num := (if 0 ≤ q then m * Nat.pow 2 q.toNat else m) *
    (if 0 ≤ k then 1 else Nat.pow 10 k.natAbs)
  let den := (if 0 ≤ q then 1 else Nat.pow 2 q.natAbs) *
    (if 0 ≤ k then Nat.pow 10 k.toNat else 1)
  (num, den)

/-- The number with the fewest digits that rounds to `m * 2 ^ q`, as its digits and an exponent of
ten; the grids of powers of ten are tried from the one of `k` on. -/
def shortestFrom (m : Nat) (q : Int) : Nat → Int → Nat × Int
  | 0, k => (m, k)
  | fuel + 1, k =>
    let (num, den) := onGrid m q k
    let down := num / den
    let up := down + 1
    match roundsTo m q down k, roundsTo m q up k with
    | true, true => if 2 * (num % den) ≤ den then (down, k) else (up, k)
    | true, false => (down, k)
    | false, true => (up, k)
    | false, false => shortestFrom m q fuel (k - 1)

/-- The digits and the exponent of ten of the shortest text. -/
def shortest (m : Nat) (q : Int) : Nat × Int :=
  let (num, den) := onGrid m q 0
  let start : Int := (writeDigits (num / den)).length
  let start := if num < den then -((writeDigits (den / num)).length : Int) + 1 else start
  shortestFrom m q 40 start

/-- The number `digits * 10 ^ exponent` without an exponent. -/
def positional (digits : Nat) (exponent : Int) : List Char :=
  let ds := writeDigits digits
  if 0 ≤ exponent then ds ++ List.replicate exponent.toNat '0'
  else
    let places := exponent.natAbs
    let ds := List.replicate (places + 1 - ds.length) '0' ++ ds
    let fraction := (ds.drop (ds.length - places)).reverse.dropWhile (· = '0') |>.reverse
    ds.take (ds.length - places) ++ (if fraction.isEmpty then [] else '.' :: fraction)

/-- The text of a floating-point number. -/
def toText : Floating → String
  | finite negative m q =>
    let digits := if m = 0 then ['0'] else
      let (n, k) := shortest m q
      positional n k
    String.ofList (if negative then '-' :: digits else digits)
  | infinite negative => if negative then "-inf" else "inf"
  | notANumber => "NaN"

/-- The number rounded to the nearest integer, a half away from zero; `none` if it is none. -/
def round? : Floating → Option Int
  | finite negative m q =>
    let n : Nat := if 0 ≤ q then m * Nat.pow 2 q.toNat
      else (m + Nat.pow 2 (q.natAbs - 1)) / Nat.pow 2 q.natAbs
    some (if negative then -(n : Int) else n)
  | _ => none

/-! ## Reading -/

/-- The digits at the start of a text and the rest. -/
def digitSpan (cs : List Char) : List Char × List Char :=
  (cs.takeWhile fun c => (digitValue? c).isSome, cs.dropWhile fun c => (digitValue? c).isSome)

/-- The exponent at the end of a number; a text without one has the exponent zero. -/
def readExponent? (cs : List Char) : Option Int :=
  let signed (negative : Bool) (ds : List Char) : Option Int :=
    (readDigits? ds).map fun n =>
      let n := min n 100000
      if negative then -(n : Int) else n
  match cs with
  | [] => some 0
  | c :: rest =>
    if c = 'e' ∨ c = 'E' then
      match rest with
      | '-' :: ds => signed true ds
      | '+' :: ds => signed false ds
      | ds => signed false ds
    else none

/-- The number that a text without a sign writes. -/
def readUnsigned? (negative : Bool) (cs : List Char) : Option Floating :=
  let lower := cs.map asciiLower
  if lower = "inf".toList ∨ lower = "infinity".toList then some (infinite negative)
  else if lower = "nan".toList then some notANumber
  else
    let (whole, rest) := digitSpan cs
    let (fraction, rest) := match rest with
      | '.' :: rest => digitSpan rest
      | rest => ([], rest)
    match readDigits? (whole ++ fraction), readExponent? rest with
    | some n, some e => some (ofDecimal negative n (e - fraction.length))
    | _, _ => none

/-- The floating-point number that a text writes. -/
def ofText? (s : String) : Option Floating :=
  match s.toList with
  | '-' :: cs => readUnsigned? true cs
  | '+' :: cs => readUnsigned? false cs
  | cs => readUnsigned? false cs

end Floating
end Text
end SessionAuth
