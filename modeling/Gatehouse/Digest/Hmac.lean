import Gatehouse.Digest.Sha512

/-!
# Keyed digests

The digest of a message under a key: the key, brought to the length of a block,
goes in front of the message with one mask and in front of that digest with
another.
-/

namespace Gatehouse.Hmac

/-- The length of a block in bytes. -/
def blockSize : Nat := 128

/-- A key of the length of a block. -/
def blockKey (key : Bytes) : Bytes :=
  let short := if blockSize < key.length then Sha512.digest key else key
  short ++ List.replicate (blockSize - short.length) 0

/-- The digest of a message under a key. -/
def digest (key message : Bytes) : Bytes :=
  let key := blockKey key
  Sha512.digest (key.map (· ^^^ 0x5C) ++ Sha512.digest (key.map (· ^^^ 0x36) ++ message))

end Gatehouse.Hmac
