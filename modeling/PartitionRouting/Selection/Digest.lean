import PartitionRouting.RoutingError

/-!
# The tie-break digest

Equally loaded instances are ordered by a 128-bit digest of the request and the
instance, so that one request sees them in one order and different requests see
them in different orders.  The digest is MurmurHash3 in its variant of four 32-bit
lanes, with seed zero.

The bytes are taken in blocks of sixteen, each read as four little-endian words.
A word is scrambled by two odd multipliers and a rotation between them, and added
bit by bit to its lane; a full block is then stirred into the lanes.  What is left
after the last full block counts as a block filled up with zeros and is not
stirred in.  At the end the lanes take in the number of bytes, are summed across, and
each is mixed once more.

## Main definitions

* `Quad` — four words, one for each lane.
* `digestQuad`, `digestBytes` — the digest of a list of bytes, as words and as a number.
* `requestDigest` — the digest of a request and an endpoint.
-/

namespace PartitionRouting

/-- Four words, one for each lane. -/
structure Quad where
  w₁ : UInt32
  w₂ : UInt32
  w₃ : UInt32
  w₄ : UInt32
  deriving DecidableEq, Repr, Inhabited

namespace Quad

/-- Combines two quads lane by lane. -/
def zip (f : UInt32 → UInt32 → UInt32) (x y : Quad) : Quad :=
  ⟨f x.w₁ y.w₁, f x.w₂ y.w₂, f x.w₃ y.w₃, f x.w₄ y.w₄⟩

/-- The bitwise sum of two quads. -/
def xor (x y : Quad) : Quad := zip (· ^^^ ·) x y

/-- The number whose 32-bit digits are the lanes, the first lane the least. -/
def toNat (x : Quad) : Nat :=
  x.w₁.toNat +
    UInt32.size * (x.w₂.toNat + UInt32.size * (x.w₃.toNat + UInt32.size * x.w₄.toNat))

end Quad

namespace Digest

/-- The word `x` rotated left by `r` bits, where `0 < r < 32`. -/
def rotate (x r : UInt32) : UInt32 := (x <<< r) ||| (x >>> (32 - r))

/-- A word multiplied, rotated and multiplied. -/
def scrambleWord (a r b x : UInt32) : UInt32 := rotate (x * a) r * b

/-- The words of a block, scrambled for their lanes. -/
def scramble (k : Quad) : Quad where
  w₁ := scrambleWord 0x239b961b 15 0xab0e9789 k.w₁
  w₂ := scrambleWord 0xab0e9789 16 0x38b34ae5 k.w₂
  w₃ := scrambleWord 0x38b34ae5 17 0xa1e38b93 k.w₃
  w₄ := scrambleWord 0xa1e38b93 18 0x239b961b k.w₄

/-- A lane rotated, added to its neighbour, and carried on. -/
def stirWord (r add x neighbour : UInt32) : UInt32 := (rotate x r + neighbour) * 5 + add

/-- The lanes after taking in a full block.  Each lane is added to the next as that one
stood before, and the last to the first as it has become. -/
def absorb (h k : Quad) : Quad :=
  let k := scramble k
  let h₁ := stirWord 19 0x561ccd1b (h.w₁ ^^^ k.w₁) h.w₂
  let h₂ := stirWord 17 0x0bcaa747 (h.w₂ ^^^ k.w₂) h.w₃
  let h₃ := stirWord 15 0x96cd1c35 (h.w₃ ^^^ k.w₃) h.w₄
  let h₄ := stirWord 13 0x32ac3b17 (h.w₄ ^^^ k.w₄) h₁
  ⟨h₁, h₂, h₃, h₄⟩

/-- The little-endian word of four bytes. -/
def word (b₀ b₁ b₂ b₃ : UInt8) : UInt32 :=
  b₀.toUInt32 ||| (b₁.toUInt32 <<< 8) ||| (b₂.toUInt32 <<< 16) ||| (b₃.toUInt32 <<< 24)

/-- The words of the first sixteen bytes of a list, filled up with zeros. -/
def block (bytes : List UInt8) : Quad :=
  let b (i : Nat) : UInt8 := bytes.getD i 0
  ⟨word (b 0) (b 1) (b 2) (b 3), word (b 4) (b 5) (b 6) (b 7),
    word (b 8) (b 9) (b 10) (b 11), word (b 12) (b 13) (b 14) (b 15)⟩

/-- The lanes after taking in that many full blocks and the bytes left after them. -/
def absorbAll : Nat → Quad → List UInt8 → Quad
  | 0, h, bytes => h.xor (scramble (block bytes))
  | blocks + 1, h, bytes => absorbAll blocks (absorb h (block bytes)) (bytes.drop 16)

/-- The final mixing of one lane. -/
def finishWord (x : UInt32) : UInt32 :=
  let x := (x ^^^ (x >>> 16)) * 0x85ebca6b
  let x := (x ^^^ (x >>> 13)) * 0xc2b2ae35
  x ^^^ (x >>> 16)

/-- The first lane becomes the sum of all lanes and is added to the others. -/
def spread (h : Quad) : Quad :=
  let s := h.w₁ + h.w₂ + h.w₃ + h.w₄
  ⟨s, h.w₂ + s, h.w₃ + s, h.w₄ + s⟩

/-- The lanes after all bytes, given their number. -/
def finish (h : Quad) (length : UInt32) : Quad :=
  let h := spread (h.xor ⟨length, length, length, length⟩)
  spread ⟨finishWord h.w₁, finishWord h.w₂, finishWord h.w₃, finishWord h.w₄⟩

end Digest

/-- The digest of a list of bytes, lane by lane. -/
def digestQuad (bytes : List UInt8) : Quad :=
  Digest.finish (Digest.absorbAll (bytes.length / 16) ⟨0, 0, 0, 0⟩ bytes) bytes.length.toUInt32

/-- The digest of a list of bytes as a number below `2 ^ 128`. -/
def digestBytes (bytes : List UInt8) : Nat := (digestQuad bytes).toNat

/-- The eight little-endian bytes of a request identifier. -/
def requestBytes (requestId : UInt64) : List UInt8 :=
  [requestId.toUInt8, (requestId >>> 8).toUInt8, (requestId >>> 16).toUInt8,
    (requestId >>> 24).toUInt8, (requestId >>> 32).toUInt8, (requestId >>> 40).toUInt8,
    (requestId >>> 48).toUInt8, (requestId >>> 56).toUInt8]

/-- The digest that orders `endpoint` among equally loaded instances for a request: that
of the request's bytes followed by the bytes of the endpoint in UTF-8. -/
def requestDigest (requestId : UInt64) (endpoint : Endpoint) : Nat :=
  digestBytes (requestBytes requestId ++ endpoint.toUTF8.toList)

/-- The 32 lowercase hexadecimal digits of a 128-bit number. -/
def digestText (n : Nat) : String :=
  String.ofList ((Nat.toDigits 16 (Nat.pow 2 128 + n % Nat.pow 2 128)).drop 1)

end PartitionRouting
