import RuleChain.Password.Blake2b

/-!
# Argon2

The memory-hard password hash in its three variants. A matrix of blocks is filled lane by lane and
slice by slice; each block is compressed from the one before it and one that an address picks,
which the variant draws from the data or from a counter.
-/

namespace RuleChain.Password

/-- How addresses are drawn: from the data, from a counter, or first from the one and then from the
other. -/
inductive Variant where
  | dependent
  | independent
  | hybrid
  deriving DecidableEq

def Variant.number : Variant → Nat
  | .dependent => 0
  | .independent => 1
  | .hybrid => 2

/-- The cost of a hash and the public data that goes into it. -/
structure Argon2 where
  variant : Variant := .hybrid
  version : Nat := 19
  memory : Nat := 19456
  passes : Nat := 2
  lanes : Nat := 1
  data : List UInt8 := []
  deriving DecidableEq

/-- A block of 1024 bytes: a square of eight rows of eight pairs of words. -/
structure Block where
  r0 : Row
  r1 : Row
  r2 : Row
  r3 : Row
  r4 : Row
  r5 : Row
  r6 : Row
  r7 : Row
  deriving Inhabited

namespace Block

def zero : Block :=
  let row := Row.replicate 0
  ⟨row, row, row, row, row, row, row, row⟩

@[inline] def map (f : Row → Row) (b : Block) : Block :=
  ⟨f b.r0, f b.r1, f b.r2, f b.r3, f b.r4, f b.r5, f b.r6, f b.r7⟩

@[inline] def zipWith (f : Row → Row → Row) (b c : Block) : Block :=
  ⟨f b.r0 c.r0, f b.r1 c.r1, f b.r2 c.r2, f b.r3 c.r3, f b.r4 c.r4, f b.r5 c.r5, f b.r6 c.r6,
    f b.r7 c.r7⟩

def xor (b c : Block) : Block :=
  zipWith (Row.zipWith fun x y => x ^^^ y) b c

/-- The row of the pairs of words that two selections take from each row. -/
@[inline] def gather (x y : Row → UInt64) (b : Block) : Row :=
  ⟨x b.r0, y b.r0, x b.r1, y b.r1, x b.r2, y b.r2, x b.r3, y b.r3, x b.r4, y b.r4, x b.r5, y b.r5,
    x b.r6, y b.r6, x b.r7, y b.r7⟩

def transpose (b : Block) : Block :=
  ⟨gather Row.w0 Row.w1 b, gather Row.w2 Row.w3 b, gather Row.w4 Row.w5 b, gather Row.w6 Row.w7 b,
    gather Row.w8 Row.w9 b, gather Row.w10 Row.w11 b, gather Row.w12 Row.w13 b,
    gather Row.w14 Row.w15 b⟩

def toList (b : Block) : List Row :=
  [b.r0, b.r1, b.r2, b.r3, b.r4, b.r5, b.r6, b.r7]

def word (b : Block) (i : Nat) : UInt64 :=
  (b.toList.getD (i / 16) b.r7).word (i % 16)

def ofBytes (bytes : ByteArray) : Block :=
  ⟨rowAt bytes 0, rowAt bytes 128, rowAt bytes 256, rowAt bytes 384, rowAt bytes 512,
    rowAt bytes 640, rowAt bytes 768, rowAt bytes 896⟩

def toBytes (b : Block) : List UInt8 :=
  b.toList.flatMap Row.toBytes

end Block

namespace Argon2

/-- The sum of two words and twice the product of their lower halves. -/
@[inline] def hardAdd (x y : UInt64) : UInt64 :=
  x + y + 2 * (x &&& 0xFFFFFFFF) * (y &&& 0xFFFFFFFF)

@[inline] def mix (q : Blake2b.Quad) : Blake2b.Quad :=
  let a := hardAdd q.a q.b
  let d := rotateRight (q.d ^^^ a) 32
  let c := hardAdd q.c d
  let b := rotateRight (q.b ^^^ c) 24
  let a := hardAdd a b
  let d := rotateRight (d ^^^ a) 16
  let c := hardAdd c d
  let b := rotateRight (b ^^^ c) 63
  ⟨a, b, c, d⟩

def permute (v : Row) : Row :=
  let q0 := mix ⟨v.w0, v.w4, v.w8, v.w12⟩
  let q1 := mix ⟨v.w1, v.w5, v.w9, v.w13⟩
  let q2 := mix ⟨v.w2, v.w6, v.w10, v.w14⟩
  let q3 := mix ⟨v.w3, v.w7, v.w11, v.w15⟩
  let d0 := mix ⟨q0.a, q1.b, q2.c, q3.d⟩
  let d1 := mix ⟨q1.a, q2.b, q3.c, q0.d⟩
  let d2 := mix ⟨q2.a, q3.b, q0.c, q1.d⟩
  let d3 := mix ⟨q3.a, q0.b, q1.c, q2.d⟩
  ⟨d0.a, d1.a, d2.a, d3.a, d3.b, d0.b, d1.b, d2.b, d2.c, d3.c, d0.c, d1.c, d1.d, d2.d, d3.d, d0.d⟩

/-- Compresses two blocks: their difference, mixed along rows and columns, and once more. -/
def compress (x y : Block) : Block :=
  let r := x.xor y
  ((r.map permute).transpose.map permute).transpose.xor r

def segmentLength (a : Argon2) : Nat :=
  a.memory / (4 * a.lanes)

def laneLength (a : Argon2) : Nat :=
  4 * a.segmentLength

/-- A place in the order in which blocks are filled: the pass, the slice and the lane. -/
structure Segment where
  pass : Nat
  slice : Nat
  lane : Nat

def isIndependent (a : Argon2) (s : Segment) : Bool :=
  match a.variant with
  | .dependent => false
  | .independent => true
  | .hybrid => s.pass = 0 && s.slice < 2

/-- The addresses of 128 blocks of a segment, of which `counter` is the number from one on. -/
def addresses (a : Argon2) (s : Segment) (counter : Nat) : Block :=
  let input : Row := ⟨.ofNat s.pass, .ofNat s.lane, .ofNat s.slice, .ofNat (a.laneLength * a.lanes),
    .ofNat a.passes, .ofNat a.variant.number, .ofNat counter, 0, 0, 0, 0, 0, 0, 0, 0, 0⟩
  compress .zero (compress .zero { Block.zero with r0 := input })

/-- The index in the matrix of the block that an address picks for the block at `j` of a segment.
The lane comes from the upper half of the address and the place in it from the lower half, which
favours recent blocks; those of the segment itself are known in its own lane only. -/
def pick (a : Argon2) (s : Segment) (j : Nat) (address : UInt64) : Nat :=
  let low := address.toNat % 0x100000000
  let high := address.toNat / 0x100000000
  let lane := if s.pass = 0 ∧ s.slice = 0 then s.lane else high % a.lanes
  let before := if s.pass = 0 then s.slice * a.segmentLength else a.laneLength - a.segmentLength
  let area :=
    if lane = s.lane then before + j - 1
    else if j = 0 then before - 1 else before
  let offset := area - 1 - area * (low * low / 0x100000000) / 0x100000000
  let start := if s.pass = 0 then 0 else (s.slice + 1) % 4 * a.segmentLength
  lane * a.laneLength + (start + offset) % a.laneLength

/-- Fills `count` blocks of a segment from the one at `j` on. `known` holds the addresses of the
current 128 blocks, if they come from a counter. -/
def fillSegment (a : Argon2) (s : Segment) :
    Nat → Nat → Block → Array Block → Array Block
  | 0, _, _, matrix => matrix
  | count + 1, j, known, matrix =>
    let column := s.slice * a.segmentLength + j
    let base := s.lane * a.laneLength
    let previous :=
      matrix.getD (base + if column = 0 then a.laneLength - 1 else column - 1) .zero
    let known :=
      if a.isIndependent s && j % 128 == 0 then a.addresses s (j / 128 + 1) else known
    let address := if a.isIndependent s then known.word (j % 128) else previous.r0.w0
    let fresh := compress previous (matrix.getD (a.pick s j address) .zero)
    let fresh :=
      if s.pass = 0 || a.version = 16 then fresh
      else fresh.xor (matrix.getD (base + column) .zero)
    fillSegment a s count (j + 1) known (matrix.setIfInBounds (base + column) fresh)

/-- Fills a segment. The first two blocks of a lane are there from the start. -/
def fill (a : Argon2) (matrix : Array Block) (s : Segment) : Array Block :=
  let start := if s.pass = 0 ∧ s.slice = 0 then 2 else 0
  let known := if a.isIndependent s then a.addresses s 1 else .zero
  a.fillSegment s (a.segmentLength - start) start known matrix

def segments (a : Argon2) : List Segment :=
  (List.range a.passes).flatMap fun pass =>
    (List.range 4).flatMap fun slice => (List.range a.lanes).map fun lane => ⟨pass, slice, lane⟩

def sized (bytes : List UInt8) : List UInt8 :=
  littleEndian 4 bytes.length ++ bytes

def seed (a : Argon2) (length : Nat) (password salt : List UInt8) : List UInt8 :=
  Blake2b.digest 64 <|
    ([a.lanes, length, a.memory, a.passes, a.version, a.variant.number].flatMap (littleEndian 4)) ++
      sized password ++ sized salt ++ sized [] ++ sized a.data

def firstBlocks (a : Argon2) (seed : List UInt8) : Array Block :=
  (List.range a.lanes).foldl
    (fun matrix lane =>
      let block (column : Nat) : Block := .ofBytes <| ByteArray.mk <| List.toArray <|
        Blake2b.longDigest 1024 (seed ++ littleEndian 4 column ++ littleEndian 4 lane)
      (matrix.setIfInBounds (lane * a.laneLength) (block 0)).setIfInBounds
        (lane * a.laneLength + 1) (block 1))
    (Array.replicate (a.laneLength * a.lanes) .zero)

/-- The hash of `length` bytes: the digest of the difference of the last blocks of all lanes. -/
def hash (a : Argon2) (length : Nat) (password salt : List UInt8) : List UInt8 :=
  let matrix := a.segments.foldl a.fill (a.firstBlocks (a.seed length password salt))
  let last (lane : Nat) : Block := matrix.getD (lane * a.laneLength + a.laneLength - 1) .zero
  let closing := (List.range a.lanes).foldl (fun b lane => Block.xor b (last lane)) Block.zero
  Blake2b.longDigest length closing.toBytes

end Argon2

end RuleChain.Password
