import SessionAuth.Crypto.Blake2b

/-!
# Argon2

The password hash of that name in its three variants and two versions.  Its memory is a matrix of
blocks of 1024 octets with one row, a lane, per degree of parallelism; the columns of a lane fall
into four slices.  A block is computed from the block before it and from a reference block, whose
place is drawn from the block before or, in the data-independent variants, from a sequence of
addresses.
-/

set_option autoImplicit false

namespace SessionAuth
namespace Crypto
namespace Argon2

/-- How the places of reference blocks are drawn. -/
inductive Variant where
  /-- From the blocks. -/
  | d
  /-- From addresses. -/
  | i
  /-- From addresses in the first half of the first pass, from the blocks after that. -/
  | id
  deriving DecidableEq, Repr

namespace Variant

/-- The number of a variant in the input of the hash. -/
def code : Variant → Nat
  | d => 0
  | i => 1
  | id => 2

def name : Variant → String
  | d => "argon2d"
  | i => "argon2i"
  | id => "argon2id"

/-- The variants by their names. -/
def byName : List (String × Variant) := [d, i, id].map fun v => (v.name, v)

end Variant

/-- What the later passes do with the blocks of the earlier ones. -/
inductive Version where
  /-- They are overwritten. -/
  | v16
  /-- They are combined with the new ones. -/
  | v19
  deriving DecidableEq, Repr

namespace Version

def number : Version → Nat
  | v16 => 16
  | v19 => 19

/-- The version with a number. -/
def ofNumber? : Nat → Option Version
  | 16 => some v16
  | 19 => some v19
  | _ => none

end Version

/-- What a hash costs, and how long it is. -/
structure Params where
  /-- Memory in blocks. -/
  memory : Nat
  passes : Nat
  lanes : Nat
  /-- The number of octets of the hash. -/
  length : Nat
  /-- Octets that go into the hash beside the password. -/
  data : List UInt8
  deriving DecidableEq

/-- The cost of hashes of new passwords. -/
def Params.default : Params := ⟨19456, 2, 1, 32, []⟩

/-- Whether hashes with these parameters are defined. -/
def Params.isValid (p : Params) : Bool :=
  1 ≤ p.passes && 1 ≤ p.lanes && p.lanes ≤ 0xFFFFFF && 8 ≤ p.memory && 8 * p.lanes ≤ p.memory &&
    4 ≤ p.length

/-! ## Blocks -/

/-- A block, as eight rows of sixteen words. -/
structure Block where
  r0 : Words
  r1 : Words
  r2 : Words
  r3 : Words
  r4 : Words
  r5 : Words
  r6 : Words
  r7 : Words
  deriving DecidableEq, Inhabited

namespace Block

def zero : Block :=
  ⟨.zero, .zero, .zero, .zero, .zero, .zero, .zero, .zero⟩

def xor (a b : Block) : Block :=
  ⟨a.r0.xor b.r0, a.r1.xor b.r1, a.r2.xor b.r2, a.r3.xor b.r3, a.r4.xor b.r4, a.r5.xor b.r5,
    a.r6.xor b.r6, a.r7.xor b.r7⟩

/-- The row at a place; the place counts modulo eight. -/
def row (b : Block) (i : Nat) : Words :=
  match i % 8 with
  | 0 => b.r0
  | 1 => b.r1
  | 2 => b.r2
  | 3 => b.r3
  | 4 => b.r4
  | 5 => b.r5
  | 6 => b.r6
  | _ => b.r7

/-- The word at a place. -/
def word (b : Block) (i : Nat) : UInt64 := (b.row (i / 16)).get (i % 16)

/-- The block whose rows a function gives. -/
@[inline] def ofRows (f : Nat → Words) : Block := ⟨f 0, f 1, f 2, f 3, f 4, f 5, f 6, f 7⟩

/-- The block with the given words. -/
def ofWords (ws : List UInt64) : Block := ofRows fun i => .ofList (ws.drop (16 * i))

/-- The block with the given octets. -/
def ofOctets (bs : List UInt8) : Block :=
  ofWords ((chunks 8 bs).map fun w => UInt64.ofNat (ofLittleEndian w))

def toOctets (b : Block) : List UInt8 :=
  (List.range 8).flatMap fun i => (b.row i).toList.flatMap fun w => littleEndian 8 w.toNat

/-- The sum of two words and twice the product of their lower halves. -/
@[inline] def mulAdd (x y : UInt64) : UInt64 :=
  x + y + 2 * ((x &&& 0xFFFFFFFF) * (y &&& 0xFFFFFFFF))

/-- The mixing of sixteen words. -/
def permute (w : Words) : Words := w.round mulAdd fun _ => 0

/-- The columns of a block, each as wide as two words; two blocks of columns make the rows again. -/
def columns (b : Block) : Block :=
  ⟨⟨b.r0.w0, b.r0.w1, b.r1.w0, b.r1.w1, b.r2.w0, b.r2.w1, b.r3.w0, b.r3.w1,
     b.r4.w0, b.r4.w1, b.r5.w0, b.r5.w1, b.r6.w0, b.r6.w1, b.r7.w0, b.r7.w1⟩,
   ⟨b.r0.w2, b.r0.w3, b.r1.w2, b.r1.w3, b.r2.w2, b.r2.w3, b.r3.w2, b.r3.w3,
     b.r4.w2, b.r4.w3, b.r5.w2, b.r5.w3, b.r6.w2, b.r6.w3, b.r7.w2, b.r7.w3⟩,
   ⟨b.r0.w4, b.r0.w5, b.r1.w4, b.r1.w5, b.r2.w4, b.r2.w5, b.r3.w4, b.r3.w5,
     b.r4.w4, b.r4.w5, b.r5.w4, b.r5.w5, b.r6.w4, b.r6.w5, b.r7.w4, b.r7.w5⟩,
   ⟨b.r0.w6, b.r0.w7, b.r1.w6, b.r1.w7, b.r2.w6, b.r2.w7, b.r3.w6, b.r3.w7,
     b.r4.w6, b.r4.w7, b.r5.w6, b.r5.w7, b.r6.w6, b.r6.w7, b.r7.w6, b.r7.w7⟩,
   ⟨b.r0.w8, b.r0.w9, b.r1.w8, b.r1.w9, b.r2.w8, b.r2.w9, b.r3.w8, b.r3.w9,
     b.r4.w8, b.r4.w9, b.r5.w8, b.r5.w9, b.r6.w8, b.r6.w9, b.r7.w8, b.r7.w9⟩,
   ⟨b.r0.w10, b.r0.w11, b.r1.w10, b.r1.w11, b.r2.w10, b.r2.w11, b.r3.w10, b.r3.w11,
     b.r4.w10, b.r4.w11, b.r5.w10, b.r5.w11, b.r6.w10, b.r6.w11, b.r7.w10, b.r7.w11⟩,
   ⟨b.r0.w12, b.r0.w13, b.r1.w12, b.r1.w13, b.r2.w12, b.r2.w13, b.r3.w12, b.r3.w13,
     b.r4.w12, b.r4.w13, b.r5.w12, b.r5.w13, b.r6.w12, b.r6.w13, b.r7.w12, b.r7.w13⟩,
   ⟨b.r0.w14, b.r0.w15, b.r1.w14, b.r1.w15, b.r2.w14, b.r2.w15, b.r3.w14, b.r3.w15,
     b.r4.w14, b.r4.w15, b.r5.w14, b.r5.w15, b.r6.w14, b.r6.w15, b.r7.w14, b.r7.w15⟩⟩

/-- Mixes each row. -/
def permuteRows (b : Block) : Block :=
  ⟨permute b.r0, permute b.r1, permute b.r2, permute b.r3, permute b.r4, permute b.r5,
    permute b.r6, permute b.r7⟩

/-- The compression of two blocks: their sum is mixed by rows and by columns, and added once
more. -/
def compress (a b : Block) : Block :=
  let r := a.xor b
  r.xor (columns (columns r.permuteRows).permuteRows)

end Block

/-! ## Hashes of any length -/

/-- The hashes of which the long hash takes the first halves, and the last one whole. -/
def halves : Nat → List UInt8 → Nat → List UInt8
  | 0, v, rest => blake2b rest v
  | n + 1, v, rest =>
    let v := blake2b 64 v
    v.take 32 ++ halves n v rest

/-- The hash of a message with `size` octets, of which there may be any number. -/
def longHash (size : Nat) (message : List UInt8) : List UInt8 :=
  let input := littleEndian 4 size ++ message
  if size ≤ 64 then blake2b size input
  else
    let steps := (size + 31) / 32 - 2
    halves steps input (size - 32 * steps)

/-! ## The memory -/

/-- What the places of a memory depend on. -/
structure Layout where
  variant : Variant
  version : Version
  lanes : Nat
  passes : Nat
  /-- The number of columns of a slice. -/
  segment : Nat

namespace Layout

/-- The number of columns of a lane. -/
def columns (l : Layout) : Nat := 4 * l.segment

/-- The number of blocks. -/
def blocks (l : Layout) : Nat := l.columns * l.lanes

/-- The place of a block in the memory. -/
def place (l : Layout) (lane column : Nat) : Nat := lane * l.columns + column

/-- Whether places are drawn from addresses. -/
def isAddressed (l : Layout) (pass slice : Nat) : Bool :=
  match l.variant with
  | .d => false
  | .i => true
  | .id => pass == 0 && slice < 2

/-- One block of addresses for a slice; the blocks count from one. -/
def addresses (l : Layout) (pass lane slice counter : Nat) : Block :=
  let input := Block.ofWords ([pass, lane, slice, l.blocks, l.passes, l.variant.code, counter].map
    UInt64.ofNat)
  Block.zero.compress (Block.zero.compress input)

/-- The place of a reference block in its lane, where `random` is drawn. -/
def referenceColumn (l : Layout) (pass slice index : Nat) (sameLane : Bool) (random : Nat) : Nat :=
  let before := if pass = 0 then slice * l.segment else l.columns - l.segment
  let area := if sameLane then before + index - 1 else before - (if index = 0 then 1 else 0)
  let offset := area - 1 - area * (random * random / 0x100000000) / 0x100000000
  let start := if pass = 0 ∨ slice = 3 then 0 else (slice + 1) * l.segment
  (start + offset) % l.columns

/-- The memory with one more block; `drawn` is drawn for it. -/
def fillBlock (l : Layout) (pass lane slice index : Nat) (drawn : UInt64) (memory : Array Block) :
    Array Block :=
  let column := slice * l.segment + index
  let previous := if column = 0 then l.columns - 1 else column - 1
  let referenceLane :=
    if pass = 0 ∧ slice = 0 then lane else (drawn >>> 32).toNat % l.lanes
  let reference := l.referenceColumn pass slice index (referenceLane == lane)
    (drawn &&& 0xFFFFFFFF).toNat
  let here := l.place lane column
  let block := (memory.getD (l.place lane previous) .zero).compress
    (memory.getD (l.place referenceLane reference) .zero)
  if pass = 0 ∨ l.version = .v16 then memory.setIfInBounds here block
  else
    let old := memory.getD here .zero
    memory.setIfInBounds here (old.xor block)

/-- The memory with the blocks of one slice of one lane from a column on; `current` is the block of
addresses in use. -/
def fillSegment (l : Layout) (pass lane slice : Nat) :
    Nat → Nat → Block → Array Block → Array Block
  | 0, _, _, memory => memory
  | left + 1, index, current, memory =>
    if l.isAddressed pass slice then
      let current :=
        if index % 128 = 0 then l.addresses pass lane slice (index / 128 + 1) else current
      let memory := l.fillBlock pass lane slice index (current.word (index % 128)) memory
      fillSegment l pass lane slice left (index + 1) current memory
    else
      let column := slice * l.segment + index
      let previous := if column = 0 then l.columns - 1 else column - 1
      let drawn := (memory.getD (l.place lane previous) .zero).word 0
      fillSegment l pass lane slice left (index + 1) current
        (l.fillBlock pass lane slice index drawn memory)

/-- The memory after one slice of all lanes. -/
def fillSlice (l : Layout) (pass slice : Nat) (memory : Array Block) : Array Block :=
  let first := if pass = 0 ∧ slice = 0 then 2 else 0
  (List.range l.lanes).foldl
    (fun memory lane =>
      let current := if l.isAddressed pass slice then l.addresses pass lane slice 1 else .zero
      l.fillSegment pass lane slice (l.segment - first) first current memory) memory

/-- The memory after all passes. -/
def fill (l : Layout) (memory : Array Block) : Array Block :=
  (List.range l.passes).foldl
    (fun memory pass => (List.range 4).foldl (fun memory slice => l.fillSlice pass slice memory)
      memory) memory

end Layout

/-- A number of four octets and the octets that it counts. -/
def counted (bs : List UInt8) : List UInt8 := littleEndian 4 bs.length ++ bs

/-- The hash from which the first two blocks of each lane are made. -/
def seed (variant : Variant) (version : Version) (p : Params) (password salt : List UInt8) :
    List UInt8 :=
  blake2b 64 (([p.lanes, p.length, p.memory, p.passes, version.number, variant.code].flatMap
    (littleEndian 4)) ++ counted password ++ counted salt ++ counted [] ++ counted p.data)

/-- The hash of a password with a salt. -/
def hash (variant : Variant) (version : Version) (p : Params) (password salt : List UInt8) :
    List UInt8 :=
  let l : Layout := ⟨variant, version, p.lanes, p.passes, p.memory / (4 * p.lanes)⟩
  let h := seed variant version p password salt
  let start := (List.range p.lanes).foldl
    (fun memory lane => [0, 1].foldl
      (fun (memory : Array Block) column => memory.setIfInBounds (l.place lane column)
        (.ofOctets (longHash 1024 (h ++ littleEndian 4 column ++ littleEndian 4 lane)))) memory)
    (Array.replicate l.blocks Block.zero)
  let memory := l.fill start
  let last := (List.range p.lanes).foldl
    (fun b lane => b.xor (memory.getD (l.place lane (l.columns - 1)) .zero)) Block.zero
  longHash p.length last.toOctets

end Argon2
end Crypto
end SessionAuth
