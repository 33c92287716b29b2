import SessionAuth.Crypto.Octets

/-!
# SHA-1

`sha1` is the hash function of that name, with 160 bits of output.  It names scripts and protects
nothing.
-/

set_option autoImplicit false

namespace SessionAuth
namespace Crypto

namespace Sha1

/-- The five words that are carried from block to block. -/
structure State where
  a : UInt32
  b : UInt32
  c : UInt32
  d : UInt32
  e : UInt32

def initial : State := ⟨0x67452301, 0xefcdab89, 0x98badcfe, 0x10325476, 0xc3d2e1f0⟩

/-- A word with its bits moved to the left around the end. -/
def rotate (x n : UInt32) : UInt32 := (x <<< n) ||| (x >>> (32 - n))

/-- The words of the schedule that follow the sixteen words of a block, which are given with the
last one first. -/
def extend : Nat → List UInt32 → List UInt32
  | 0, ws => ws
  | n + 1, ws =>
    let w := ws.getD 2 0 ^^^ ws.getD 7 0 ^^^ ws.getD 13 0 ^^^ ws.getD 15 0
    extend n (rotate w 1 :: ws)

/-- The function and the constant of a round. -/
def mix (round : Nat) (b c d : UInt32) : UInt32 :=
  if round < 20 then ((b &&& c) ||| (~~~b &&& d)) + 0x5a827999
  else if round < 40 then (b ^^^ c ^^^ d) + 0x6ed9eba1
  else if round < 60 then ((b &&& c) ||| (b &&& d) ||| (c &&& d)) + 0x8f1bbcdc
  else (b ^^^ c ^^^ d) + 0xca62c1d6

/-- One round, with its word of the schedule and its number. -/
def round (s : State) (entry : UInt32 × Nat) : State :=
  ⟨rotate s.a 5 + mix entry.2 s.b s.c s.d + s.e + entry.1, s.a, rotate s.b 30, s.c, s.d⟩

/-- The state after one more block of sixty-four octets. -/
def compress (s : State) (block : List UInt8) : State :=
  let words := (chunks 4 block).map fun w => UInt32.ofNat (ofBigEndian w)
  let t := (extend 64 words.reverse).reverse.zipIdx.foldl round s
  ⟨s.a + t.a, s.b + t.b, s.c + t.c, s.d + t.d, s.e + t.e⟩

/-- A message with the padding that makes it a whole number of blocks. -/
def pad (message : List UInt8) : List UInt8 :=
  let n := message.length
  message ++ 0x80 :: (List.replicate ((119 - n % 64) % 64) 0 ++ bigEndian 8 (n * 8))

def State.toOctets (s : State) : List UInt8 :=
  [s.a, s.b, s.c, s.d, s.e].flatMap fun w => bigEndian 4 w.toNat

end Sha1

/-- The hash of a message, twenty octets. -/
def sha1 (message : List UInt8) : List UInt8 :=
  ((chunks 64 (Sha1.pad message)).foldl Sha1.compress Sha1.initial).toOctets

end Crypto
end SessionAuth
