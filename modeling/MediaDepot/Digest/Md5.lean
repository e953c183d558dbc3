import MediaDepot.Bytes

/-!
# MD5

The digest by which stored contents are tagged. A message is padded to blocks of 64 bytes (one bit
set, zeros, the bit length in eight little-endian bytes) and each block is mixed into four words.

* `digest` — the digest of a whole message.
* `Context` — a message taken in by pieces: `Context.update` mixes every full block at once and
  keeps the rest, `Context.finish` pads what is left.
-/

namespace MediaDepot.Digest.Md5

/-- The four chaining words. -/
structure Words where
  a : UInt32
  b : UInt32
  c : UInt32
  d : UInt32
  deriving DecidableEq, Inhabited

/-- The words before the first block. -/
def initial : Words := ⟨0x67452301, 0xefcdab89, 0x98badcfe, 0x10325476⟩

/-- The additive constants of the 64 steps. -/
def sines : Array UInt32 := #[
  0xd76aa478, 0xe8c7b756, 0x242070db, 0xc1bdceee, 0xf57c0faf, 0x4787c62a, 0xa8304613, 0xfd469501,
  0x698098d8, 0x8b44f7af, 0xffff5bb1, 0x895cd7be, 0x6b901122, 0xfd987193, 0xa679438e, 0x49b40821,
  0xf61e2562, 0xc040b340, 0x265e5a51, 0xe9b6c7aa, 0xd62f105d, 0x02441453, 0xd8a1e681, 0xe7d3fbc8,
  0x21e1cde6, 0xc33707d6, 0xf4d50d87, 0x455a14ed, 0xa9e3e905, 0xfcefa3f8, 0x676f02d9, 0x8d2a4c8a,
  0xfffa3942, 0x8771f681, 0x6d9d6122, 0xfde5380c, 0xa4beea44, 0x4bdecfa9, 0xf6bb4b60, 0xbebfbc70,
  0x289b7ec6, 0xeaa127fa, 0xd4ef3085, 0x04881d05, 0xd9d4d039, 0xe6db99e5, 0x1fa27cf8, 0xc4ac5665,
  0xf4292244, 0x432aff97, 0xab9423a7, 0xfc93a039, 0x655b59c3, 0x8f0ccc92, 0xffeff47d, 0x85845dd1,
  0x6fa87e4f, 0xfe2ce6e0, 0xa3014314, 0x4e0811a1, 0xf7537e82, 0xbd3af235, 0x2ad7d2bb, 0xeb86d391]

/-- How far each step rotates: four amounts a round, repeated. -/
def rotations : Array UInt32 := #[7, 12, 17, 22, 5, 9, 14, 20, 4, 11, 16, 23, 6, 10, 15, 21]

/-- Rotation to the left by `n` bits, `0 < n < 32`. -/
def rotate (x n : UInt32) : UInt32 := (x <<< n) ||| (x >>> (32 - n))

/-- The mixing function of step `i` and the index of the block word it takes. -/
def mixed (i : Nat) (w : Words) : UInt32 × Nat :=
  if i < 16 then ((w.b &&& w.c) ||| (w.b.complement &&& w.d), i)
  else if i < 32 then ((w.d &&& w.b) ||| (w.d.complement &&& w.c), (5 * i + 1) % 16)
  else if i < 48 then (w.b ^^^ w.c ^^^ w.d, (3 * i + 5) % 16)
  else (w.c ^^^ (w.b ||| w.d.complement), (7 * i) % 16)

/-- Step `i` on the words of a block. -/
def round (block : Array UInt32) (w : Words) (i : Nat) : Words :=
  let (f, g) := mixed i w
  let sum := w.a + f + sines.getD i 0 + block.getD g 0
  ⟨w.d, w.b + rotate sum (rotations.getD (4 * (i / 16) + i % 4) 0), w.b, w.c⟩

/-- The little-endian words of a list of bytes. -/
def wordsOf : Bytes → List UInt32
  | b0 :: b1 :: b2 :: b3 :: rest =>
    (b0.toUInt32 ||| (b1.toUInt32 <<< 8) ||| (b2.toUInt32 <<< 16) ||| (b3.toUInt32 <<< 24)) ::
      wordsOf rest
  | _ => []

/-- Mixes one block of 64 bytes into the words. -/
def compress (w : Words) (block : Bytes) : Words :=
  let words := (wordsOf block).toArray
  let mixed := (List.range 64).foldl (round words) w
  ⟨w.a + mixed.a, w.b + mixed.b, w.c + mixed.c, w.d + mixed.d⟩

/-- The `n` low bytes of a number, least significant first. -/
def littleEndian : Nat → Nat → Bytes
  | 0, _ => []
  | n + 1, value => UInt8.ofNat (value % 256) :: littleEndian n (value / 256)

/-- What follows a message of the given length to fill its last block. -/
def padding (length : Nat) : Bytes :=
  0x80 :: List.replicate ((119 - length % 64) % 64) 0 ++ littleEndian 8 (8 * length)

/-- Mixes all full blocks of the bytes into the words; returns the words and the bytes left over. -/
def absorb (w : Words) (bytes : Bytes) : Words × Bytes :=
  match _long : bytes.drop 63 with
  | [] => (w, bytes)
  | _ :: rest => absorb (compress w (bytes.take 64)) rest
termination_by bytes.length
decreasing_by
  have := congrArg List.length _long
  simp only [List.length_drop, List.length_cons] at this
  omega

/-- The sixteen bytes of the words. -/
def Words.toBytes (w : Words) : Bytes :=
  [w.a, w.b, w.c, w.d].flatMap fun x => littleEndian 4 x.toNat

/-- The digest of a message. -/
def digest (message : Bytes) : Bytes :=
  (absorb initial (message ++ padding message.length)).1.toBytes

/-- The digest of a message as hexadecimal text. -/
def hexDigest (message : Bytes) : String := (digest message).toHex

/-- A message that is still being taken in: the words after its full blocks, the bytes after them
and its length so far. -/
structure Context where
  words : Words := initial
  rest : Bytes := []
  length : Nat := 0
  deriving Inhabited

/-- Takes in another piece of the message. -/
def Context.update (ctx : Context) (piece : Bytes) : Context :=
  let (words, rest) := absorb ctx.words (ctx.rest ++ piece)
  ⟨words, rest, ctx.length + piece.length⟩

/-- The digest of what was taken in. -/
def Context.finish (ctx : Context) : Bytes :=
  (absorb ctx.words (ctx.rest ++ padding ctx.length)).1.toBytes

/-- The digest of what was taken in, as hexadecimal text. -/
def Context.hexDigest (ctx : Context) : String := ctx.finish.toHex

end MediaDepot.Digest.Md5
