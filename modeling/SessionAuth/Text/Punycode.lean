/-!
# Punycode

Punycode writes a label with letters of any kind in ASCII.  The letters of ASCII come first, in their
order; for each other letter, by ascending code points, a number follows that tells how far the pair
of code point and place moves on from that of the letter before.  The digits of a number have bases
of their own, which depend on the numbers before it.

All recursion is on a quantity that becomes smaller: the distance that `reduce` divides, and the part
of a number that `number` has still to write.
-/

set_option autoImplicit false

namespace SessionAuth
namespace Text
namespace Punycode

/-- The character of a digit below thirty-six. -/
def digit (n : Nat) : Char :=
  if n < 26 then Char.ofNat ('a'.toNat + n) else Char.ofNat ('0'.toNat + (n - 26))

/-- The least value of a digit, at a position, that another digit follows. -/
def threshold (bias position : Nat) : Nat :=
  if position ≤ bias then 1 else if bias + 26 ≤ position then 26 else position - bias

theorem threshold_pos (bias position : Nat) : 1 ≤ threshold bias position := by
  unfold threshold
  split
  · omega
  · split <;> omega

/-- The bias for distances of a given size, from a position on. -/
def reduce (delta position : Nat) : Nat :=
  if 455 < delta then reduce (delta / 35) (position + 36)
  else position + 36 * delta / (delta + 38)
termination_by delta
decreasing_by omega

/-- The bias after a distance, with the count of letters so far; the first distance is long. -/
def adapt (delta letters : Nat) (isFirst : Bool) : Nat :=
  let delta := if isFirst then delta / 700 else delta / 2
  reduce (delta + delta / letters) 0

/-- The digits of a number from a position on, the lowest one first. -/
def number (bias position n : Nat) : List Char :=
  let t := threshold bias position
  if n < t then [digit n]
  else digit (t + (n - t) % (36 - t)) :: number bias (position + 36) ((n - t) / (36 - t))
termination_by n
decreasing_by
  have := threshold_pos bias position
  have := Nat.div_le_self (n - threshold bias position) (36 - threshold bias position)
  omega

/-- How far a label is written. -/
structure Progress where
  /-- The least code point that may come next. -/
  next : Nat
  /-- The distance since the letter that was written last. -/
  delta : Nat
  bias : Nat
  /-- The count of letters that are written. -/
  letters : Nat
  /-- The digits of the numbers so far. -/
  output : List Char

/-- Goes on by one letter of the label, in the pass for the code point `next`. -/
def Progress.visit (basic : Nat) (p : Progress) (c : Char) : Progress :=
  if c.toNat < p.next then { p with delta := p.delta + 1 }
  else if c.toNat = p.next then
    { p with
      delta := 0
      bias := adapt p.delta (p.letters + 1) (p.letters = basic)
      letters := p.letters + 1
      output := p.output ++ number p.bias 36 p.delta }
  else p

/-- Writes all letters of a label that have the given code point. -/
def Progress.pass (basic : Nat) (label : List Char) (p : Progress) (point : Nat) : Progress :=
  let start := { p with next := point, delta := p.delta + (point - p.next) * (p.letters + 1) }
  let p := label.foldl (Progress.visit basic) start
  { p with next := point + 1, delta := p.delta + 1 }

/-- The code points of a label that are not ASCII, each once and in ascending order. -/
def points (label : List Char) : List Nat :=
  ((label.map Char.toNat).filter (0x80 ≤ ·)).eraseDups.mergeSort fun m n => decide (m ≤ n)

/-- The text of a label. -/
def encode (label : List Char) : List Char :=
  let basic := label.filter fun c => c.toNat < 0x80
  let start : Progress := ⟨0x80, 0, 72, basic.length, []⟩
  let p := (points label).foldl (Progress.pass basic.length label) start
  basic ++ (if basic.isEmpty then [] else ['-']) ++ p.output

end Punycode
end Text
end SessionAuth
