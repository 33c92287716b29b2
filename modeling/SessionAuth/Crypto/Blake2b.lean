import SessionAuth.Crypto.Octets
import SessionAuth.Crypto.Words

/-!
# BLAKE2b

`blake2b` is the hash function of that name on words of sixty-four bits without a key; its result
has between one and sixty-four octets.
-/

set_option autoImplicit false

namespace SessionAuth
namespace Crypto

namespace Blake2b

/-- The eight words from which the state starts. -/
def initial : List UInt64 :=
  [0x6a09e667f3bcc908, 0xbb67ae8584caa73b, 0x3c6ef372fe94f82b, 0xa54ff53a5f1d36f1,
   0x510e527fade682d1, 0x9b05688c2b3e6c1f, 0x1f83d9abfb41bd6b, 0x5be0cd19137e2179]

/-- The orders in which the twelve rounds take the words of the message. -/
def orders : List (List Nat) :=
  let first :=
    [[0, 1, 2, 3, 4, 5, 6, 7, 8, 9, 10, 11, 12, 13, 14, 15],
     [14, 10, 4, 8, 9, 15, 13, 6, 1, 12, 0, 2, 11, 7, 5, 3],
     [11, 8, 12, 0, 5, 2, 15, 13, 10, 14, 3, 6, 7, 1, 9, 4],
     [7, 9, 3, 1, 13, 12, 11, 14, 2, 6, 5, 10, 4, 0, 15, 8],
     [9, 0, 5, 7, 2, 4, 10, 15, 14, 1, 11, 12, 6, 8, 3, 13],
     [2, 12, 6, 10, 0, 11, 8, 3, 4, 13, 7, 5, 15, 14, 1, 9],
     [12, 5, 1, 15, 14, 13, 4, 10, 0, 7, 6, 3, 9, 2, 8, 11],
     [13, 11, 7, 14, 12, 1, 3, 9, 5, 0, 15, 4, 8, 6, 2, 10],
     [6, 15, 14, 9, 11, 3, 0, 8, 12, 2, 13, 7, 1, 4, 10, 5],
     [10, 2, 8, 4, 7, 6, 1, 5, 15, 11, 9, 14, 3, 12, 13, 0]]
  first ++ first.take 2

/-- One round, with the words of the message in the given order. -/
def round (message : Words) (v : Words) (order : List Nat) : Words :=
  let m := Words.ofList (order.map message.get)
  v.round (· + ·) m.get

/-- The state after one more block; `count` is the number of octets up to its end. -/
def compress (state : List UInt64) (block : List UInt8) (count : Nat) (last : Bool) :
    List UInt64 :=
  let full := block ++ List.replicate (128 - block.length) 0
  let message := Words.ofList ((chunks 8 full).map fun w => UInt64.ofNat (ofLittleEndian w))
  let start := Words.ofList (state ++ initial)
  let v := { start with
    w12 := start.w12 ^^^ UInt64.ofNat count
    w14 := if last then ~~~start.w14 else start.w14 }
  let v := orders.foldl (round message) v
  state.zipWith (· ^^^ ·) ((v.toList.take 8).zipWith (· ^^^ ·) (v.toList.drop 8))

/-- The state after the blocks of a message, of which `count` octets came before. -/
def absorb (state : List UInt64) (count : Nat) : List (List UInt8) → List UInt64
  | [] => state
  | [block] => compress state block (count + block.length) true
  | block :: blocks =>
    absorb (compress state block (count + block.length) false) (count + block.length) blocks

end Blake2b

/-- The hash of a message with `size` octets. -/
def blake2b (size : Nat) (message : List UInt8) : List UInt8 :=
  let start := match Blake2b.initial with
    | w :: ws => (w ^^^ 0x01010000 ^^^ UInt64.ofNat size) :: ws
    | [] => []
  let state := Blake2b.absorb start 0 (chunks 128 message)
  (state.flatMap fun w => littleEndian 8 w.toNat).take size

end Crypto
end SessionAuth
