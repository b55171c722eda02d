/-
MD5. Four rounds of sixteen steps mix each block of sixteen words into
four words of state; words and length are least significant byte
first.
-/
import BucketAcl.Digest.Blocks

namespace BucketAcl.Digest.Md5

/-- The four words of state. -/
structure State where
  a : UInt32
  b : UInt32
  c : UInt32
  d : UInt32

/-- The state before the first block. -/
def State.initial : State := ⟨0x67452301, 0xefcdab89, 0x98badcfe, 0x10325476⟩

/-- The constants of the 64 steps. -/
def constants : List UInt32 :=
  [0xd76aa478, 0xe8c7b756, 0x242070db, 0xc1bdceee, 0xf57c0faf, 0x4787c62a, 0xa8304613, 0xfd469501,
   0x698098d8, 0x8b44f7af, 0xffff5bb1, 0x895cd7be, 0x6b901122, 0xfd987193, 0xa679438e, 0x49b40821,
   0xf61e2562, 0xc040b340, 0x265e5a51, 0xe9b6c7aa, 0xd62f105d, 0x02441453, 0xd8a1e681, 0xe7d3fbc8,
   0x21e1cde6, 0xc33707d6, 0xf4d50d87, 0x455a14ed, 0xa9e3e905, 0xfcefa3f8, 0x676f02d9, 0x8d2a4c8a,
   0xfffa3942, 0x8771f681, 0x6d9d6122, 0xfde5380c, 0xa4beea44, 0x4bdecfa9, 0xf6bb4b60, 0xbebfbc70,
   0x289b7ec6, 0xeaa127fa, 0xd4ef3085, 0x04881d05, 0xd9d4d039, 0xe6db99e5, 0x1fa27cf8, 0xc4ac5665,
   0xf4292244, 0x432aff97, 0xab9423a7, 0xfc93a039, 0x655b59c3, 0x8f0ccc92, 0xffeff47d, 0x85845dd1,
   0x6fa87e4f, 0xfe2ce6e0, 0xa3014314, 0x4e0811a1, 0xf7537e82, 0xbd3af235, 0x2ad7d2bb, 0xeb86d391]

/-- The rotation of step `i`: each round repeats four amounts. -/
def rotation (i : Nat) : UInt32 :=
  let amounts : List UInt32 :=
    if i < 16 then [7, 12, 17, 22]
    else if i < 32 then [5, 9, 14, 20]
    else if i < 48 then [4, 11, 16, 23]
    else [6, 10, 15, 21]
  amounts[i % 4]?.getD 0

/-- The word of the block that step `i` takes. -/
def wordIndex (i : Nat) : Nat :=
  if i < 16 then i
  else if i < 32 then (5 * i + 1) % 16
  else if i < 48 then (3 * i + 5) % 16
  else 7 * i % 16

/-- The mixing function of step `i`. -/
def State.mix (s : State) (i : Nat) : UInt32 :=
  if i < 16 then (s.b &&& s.c) ||| (~~~s.b &&& s.d)
  else if i < 32 then (s.d &&& s.b) ||| (~~~s.d &&& s.c)
  else if i < 48 then s.b ^^^ s.c ^^^ s.d
  else s.c ^^^ (s.b ||| ~~~s.d)

/-- Step `i` with constant `k` over a block of sixteen words. -/
def State.step (words : List UInt32) (s : State) (i : Nat) (k : UInt32) : State :=
  let sum := s.a + s.mix i + k + words[wordIndex i]?.getD 0
  ⟨s.d, s.b + rotateLeft sum (rotation i), s.b, s.c⟩

/-- The state after a block of sixteen words. -/
def State.block (s : State) (words : List UInt32) : State :=
  let t := constants.zipIdx.foldl (fun t (k, i) => t.step words i k) s
  ⟨s.a + t.a, s.b + t.b, s.c + t.c, s.d + t.d⟩

/-- The MD5 digest of a message, 16 bytes. -/
def hash (message : List UInt8) : List UInt8 :=
  let (high, low) := bitLength message
  let words := littleEndianWords (padded message) ++ [low, high]
  let s := (pieces 15 words).foldl State.block State.initial
  [s.a, s.b, s.c, s.d].flatMap littleEndian

end BucketAcl.Digest.Md5
