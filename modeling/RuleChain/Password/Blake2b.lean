/-!
# BLAKE2b

The unkeyed hash function with a digest of any length up to 64 bytes, and the extension of it to
longer digests.
-/

namespace RuleChain.Password

structure Row where
  w0 : UInt64
  w1 : UInt64
  w2 : UInt64
  w3 : UInt64
  w4 : UInt64
  w5 : UInt64
  w6 : UInt64
  w7 : UInt64
  w8 : UInt64
  w9 : UInt64
  w10 : UInt64
  w11 : UInt64
  w12 : UInt64
  w13 : UInt64
  w14 : UInt64
  w15 : UInt64
  deriving Inhabited

namespace Row

def replicate (w : UInt64) : Row := ⟨w, w, w, w, w, w, w, w, w, w, w, w, w, w, w, w⟩

def word (r : Row) (i : Nat) : UInt64 :=
  match i with
  | 0 => r.w0
  | 1 => r.w1
  | 2 => r.w2
  | 3 => r.w3
  | 4 => r.w4
  | 5 => r.w5
  | 6 => r.w6
  | 7 => r.w7
  | 8 => r.w8
  | 9 => r.w9
  | 10 => r.w10
  | 11 => r.w11
  | 12 => r.w12
  | 13 => r.w13
  | 14 => r.w14
  | _ => r.w15

def toList (r : Row) : List UInt64 :=
  [r.w0, r.w1, r.w2, r.w3, r.w4, r.w5, r.w6, r.w7, r.w8, r.w9, r.w10, r.w11, r.w12, r.w13, r.w14,
    r.w15]

@[inline] def zipWith (f : UInt64 → UInt64 → UInt64) (r s : Row) : Row :=
  ⟨f r.w0 s.w0, f r.w1 s.w1, f r.w2 s.w2, f r.w3 s.w3, f r.w4 s.w4, f r.w5 s.w5, f r.w6 s.w6,
    f r.w7 s.w7, f r.w8 s.w8, f r.w9 s.w9, f r.w10 s.w10, f r.w11 s.w11, f r.w12 s.w12,
    f r.w13 s.w13, f r.w14 s.w14, f r.w15 s.w15⟩

end Row

/-- The bits of a word moved to the right, those that fall out coming in at the left. -/
@[inline] def rotateRight (w n : UInt64) : UInt64 :=
  (w >>> n) ||| (w <<< (64 - n))

def littleEndian : Nat → Nat → List UInt8
  | 0, _ => []
  | count + 1, n => UInt8.ofNat n :: littleEndian count (n / 256)

/-- The word that eight bytes from an index on make, the least byte first; bytes behind the end are
zero. -/
def wordAt (bytes : ByteArray) (i : Nat) : UInt64 :=
  let byte (k : Nat) : UInt64 := (bytes.data.getD (i + k) 0).toUInt64
  byte 0 ||| byte 1 <<< 8 ||| byte 2 <<< 16 ||| byte 3 <<< 24 ||| byte 4 <<< 32 |||
    byte 5 <<< 40 ||| byte 6 <<< 48 ||| byte 7 <<< 56

def rowAt (bytes : ByteArray) (i : Nat) : Row :=
  let word (k : Nat) : UInt64 := wordAt bytes (i + 8 * k)
  ⟨word 0, word 1, word 2, word 3, word 4, word 5, word 6, word 7, word 8, word 9, word 10,
    word 11, word 12, word 13, word 14, word 15⟩

def Row.toBytes (r : Row) : List UInt8 :=
  r.toList.flatMap fun w => littleEndian 8 w.toNat

namespace Blake2b

/-- The initial state: the fractional parts of the square roots of the first eight primes. -/
def initial : List UInt64 :=
  [0x6A09E667F3BCC908, 0xBB67AE8584CAA73B, 0x3C6EF372FE94F82B, 0xA54FF53A5F1D36F1,
    0x510E527FADE682D1, 0x9B05688C2B3E6C1F, 0x1F83D9ABFB41BD6B, 0x5BE0CD19137E2179]

/-- The orders in which the rounds take the words of the message. -/
def orders : List (List Nat) := [
  [0, 1, 2, 3, 4, 5, 6, 7, 8, 9, 10, 11, 12, 13, 14, 15],
  [14, 10, 4, 8, 9, 15, 13, 6, 1, 12, 0, 2, 11, 7, 5, 3],
  [11, 8, 12, 0, 5, 2, 15, 13, 10, 14, 3, 6, 7, 1, 9, 4],
  [7, 9, 3, 1, 13, 12, 11, 14, 2, 6, 5, 10, 4, 0, 15, 8],
  [9, 0, 5, 7, 2, 4, 10, 15, 14, 1, 11, 12, 6, 8, 3, 13],
  [2, 12, 6, 10, 0, 11, 8, 3, 4, 13, 7, 5, 15, 14, 1, 9],
  [12, 5, 1, 15, 14, 13, 4, 10, 0, 7, 6, 3, 9, 2, 8, 11],
  [13, 11, 7, 14, 12, 1, 3, 9, 5, 0, 15, 4, 8, 6, 2, 10],
  [6, 15, 14, 9, 11, 3, 0, 8, 12, 2, 13, 7, 1, 4, 10, 5],
  [10, 2, 8, 4, 7, 6, 1, 5, 15, 11, 9, 14, 3, 12, 13, 0],
  [0, 1, 2, 3, 4, 5, 6, 7, 8, 9, 10, 11, 12, 13, 14, 15],
  [14, 10, 4, 8, 9, 15, 13, 6, 1, 12, 0, 2, 11, 7, 5, 3]]

structure Quad where
  a : UInt64
  b : UInt64
  c : UInt64
  d : UInt64

@[inline] def mix (q : Quad) (x y : UInt64) : Quad :=
  let a := q.a + q.b + x
  let d := rotateRight (q.d ^^^ a) 32
  let c := q.c + d
  let b := rotateRight (q.b ^^^ c) 24
  let a := a + b + y
  let d := rotateRight (d ^^^ a) 16
  let c := c + d
  let b := rotateRight (b ^^^ c) 63
  ⟨a, b, c, d⟩

/-- One round: the columns and then the diagonals of the working words, seen as a square. -/
def round (m : Row) (v : Row) (order : List Nat) : Row :=
  let word (i : Nat) : UInt64 := m.word (order.getD i 0)
  let q0 := mix ⟨v.w0, v.w4, v.w8, v.w12⟩ (word 0) (word 1)
  let q1 := mix ⟨v.w1, v.w5, v.w9, v.w13⟩ (word 2) (word 3)
  let q2 := mix ⟨v.w2, v.w6, v.w10, v.w14⟩ (word 4) (word 5)
  let q3 := mix ⟨v.w3, v.w7, v.w11, v.w15⟩ (word 6) (word 7)
  let d0 := mix ⟨q0.a, q1.b, q2.c, q3.d⟩ (word 8) (word 9)
  let d1 := mix ⟨q1.a, q2.b, q3.c, q0.d⟩ (word 10) (word 11)
  let d2 := mix ⟨q2.a, q3.b, q0.c, q1.d⟩ (word 12) (word 13)
  let d3 := mix ⟨q3.a, q0.b, q1.c, q2.d⟩ (word 14) (word 15)
  ⟨d0.a, d1.a, d2.a, d3.a, d3.b, d0.b, d1.b, d2.b, d2.c, d3.c, d0.c, d1.c, d1.d, d2.d, d3.d, d0.d⟩

/-- Takes one block of 128 bytes into the state of eight words. `total` counts the bytes up to its
end. -/
def compress (h : List UInt64) (m : Row) (total : Nat) (isLast : Bool) : List UInt64 :=
  let state (i : Nat) : UInt64 := h.getD i 0
  let start (i : Nat) : UInt64 := initial.getD i 0
  let v : Row := ⟨state 0, state 1, state 2, state 3, state 4, state 5, state 6, state 7,
    start 0, start 1, start 2, start 3, start 4 ^^^ UInt64.ofNat total,
    start 5 ^^^ UInt64.ofNat (total / 0x10000000000000000),
    if isLast then ~~~ start 6 else start 6, start 7⟩
  let v := orders.foldl (round m) v
  [state 0 ^^^ v.w0 ^^^ v.w8, state 1 ^^^ v.w1 ^^^ v.w9, state 2 ^^^ v.w2 ^^^ v.w10,
    state 3 ^^^ v.w3 ^^^ v.w11, state 4 ^^^ v.w4 ^^^ v.w12, state 5 ^^^ v.w5 ^^^ v.w13,
    state 6 ^^^ v.w6 ^^^ v.w14, state 7 ^^^ v.w7 ^^^ v.w15]

def absorb (bytes : ByteArray) : Nat → Nat → List UInt64 → List UInt64
  | 0, _, h => h
  | count + 1, i, h =>
    absorb bytes count (i + 128) (compress h (rowAt bytes i) (i + 128) false)

/-- The digest of `length` bytes. The last block, which may be full, is taken apart from the
others. -/
def digest (length : Nat) (message : List UInt8) : List UInt8 :=
  let bytes := ByteArray.mk message.toArray
  let h := match initial with
    | [] => []
    | w :: ws => (w ^^^ 0x01010000 ^^^ UInt64.ofNat length) :: ws
  let full := (bytes.size - 1) / 128
  let h := compress (absorb bytes full 0 h) (rowAt bytes (128 * full)) bytes.size true
  (h.flatMap fun w => littleEndian 8 w.toNat).take length

/-- The first halves of `count` digests, each of the one before, and then a last digest of `length`
bytes. -/
def digestRow (length : Nat) : Nat → List UInt8 → List UInt8
  | 0, message => digest length message
  | count + 1, message =>
    let next := digest 64 message
    next.take 32 ++ digestRow length count next

/-- A digest of any length, which is hashed along with the message. -/
def longDigest (length : Nat) (message : List UInt8) : List UInt8 :=
  let message := littleEndian 4 length ++ message
  if length ≤ 64 then digest length message
  else
    let count := (length + 31) / 32 - 2
    digestRow (length - 32 * count) count message

end Blake2b

end RuleChain.Password
