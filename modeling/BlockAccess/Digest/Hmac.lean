import BlockAccess.Digest.Sha256

/-!
# HMAC-SHA256

The keyed hash of RFC 2104 over SHA-256. A key of any length is accepted: a long one is hashed
first, a short one is filled up with zeros.

## Main results

* `length_hmacSha256` — an authentication code has 32 bytes.
-/

namespace BlockAccess.Digest

/-- The block size of SHA-256, in bytes. -/
def blockSize : Nat := 64

/-- A key brought to the block size. -/
def blockKey (key : List UInt8) : List UInt8 :=
  let short := if key.length ≤ blockSize then key else sha256 key
  short ++ List.replicate (blockSize - short.length) 0

/-- **The authentication code** of a message under a key. -/
def hmacSha256 (key message : List UInt8) : List UInt8 :=
  let padded := blockKey key
  sha256 (padded.map (· ^^^ 0x5c) ++ sha256 (padded.map (· ^^^ 0x36) ++ message))

@[simp] theorem length_hmacSha256 (key message : List UInt8) :
    (hmacSha256 key message).length = 32 := length_sha256 _

end BlockAccess.Digest
