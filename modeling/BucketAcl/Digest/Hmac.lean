/-
HMAC over SHA-256: the key, filled up to a block, is mixed with two
pads, and the message is hashed inside both.
-/
import BucketAcl.Digest.Sha256

namespace BucketAcl.Digest.Hmac

/-- The key as one block: a key longer than a block is hashed first,
and zeros fill up the rest. -/
def keyBlock (key : List UInt8) : List UInt8 :=
  let short := if key.length > 64 then Sha256.hash key else key
  short ++ List.replicate (64 - short.length) 0

/-- The authentication code of a message under a key, 32 bytes. -/
def code (key message : List UInt8) : List UInt8 :=
  let block := keyBlock key
  let inner := Sha256.hash (block.map (· ^^^ 0x36) ++ message)
  Sha256.hash (block.map (· ^^^ 0x5c) ++ inner)

theorem length_code (key message : List UInt8) : (code key message).length = 32 := rfl

end BucketAcl.Digest.Hmac
