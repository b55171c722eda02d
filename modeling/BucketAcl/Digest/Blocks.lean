/-
What the two hash functions share: the padding of a message to whole
blocks of 64 bytes, and the bytes of words in either order.
-/
namespace BucketAcl.Digest

/-- The bytes of a word, most significant first. -/
def bigEndian (w : UInt32) : List UInt8 :=
  [(w >>> 24).toUInt8, (w >>> 16).toUInt8, (w >>> 8).toUInt8, w.toUInt8]

/-- The bytes of a word, least significant first. -/
def littleEndian (w : UInt32) : List UInt8 :=
  [w.toUInt8, (w >>> 8).toUInt8, (w >>> 16).toUInt8, (w >>> 24).toUInt8]

/-- The words of bytes, most significant byte first. -/
def bigEndianWords : List UInt8 → List UInt32
  | a :: b :: c :: d :: r =>
    (a.toUInt32 <<< 24 ||| b.toUInt32 <<< 16 ||| c.toUInt32 <<< 8 ||| d.toUInt32)
      :: bigEndianWords r
  | _ => []

/-- The words of bytes, least significant byte first. -/
def littleEndianWords : List UInt8 → List UInt32
  | a :: b :: c :: d :: r =>
    (d.toUInt32 <<< 24 ||| c.toUInt32 <<< 16 ||| b.toUInt32 <<< 8 ||| a.toUInt32)
      :: littleEndianWords r
  | _ => []

/-- Rotation to the left. -/
def rotateLeft (w : UInt32) (n : UInt32) : UInt32 := w <<< n ||| w >>> (32 - n)

/-- Rotation to the right. -/
def rotateRight (w : UInt32) (n : UInt32) : UInt32 := w >>> n ||| w <<< (32 - n)

/-- The message with a one bit and zeros behind it, up to eight bytes
short of a whole block. -/
def padded (message : List UInt8) : List UInt8 :=
  message ++ 0x80 :: List.replicate ((119 - message.length % 64) % 64) 0

/-- The length of a message in bits, as the two halves of a 64-bit
number: high, then low. -/
def bitLength (message : List UInt8) : UInt32 × UInt32 :=
  let bits := message.length * 8
  ((bits / 0x100000000).toUInt32, bits.toUInt32)

/-- The list in pieces of `n + 1`; a shorter last piece is kept. -/
def pieces {α : Type} (n : Nat) : List α → List (List α)
  | [] => []
  | a :: r => (a :: r.take n) :: pieces n (r.drop n)
  termination_by as => as.length
  decreasing_by simp only [List.length_drop, List.length_cons]; omega

end BucketAcl.Digest
