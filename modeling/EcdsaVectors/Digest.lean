/-
The digest of a message under a named hash function, and under a key.
-/
import EcdsaVectors.HashName
import EcdsaVectors.Digest.Sha1
import EcdsaVectors.Digest.Sha2
import EcdsaVectors.Digest.Sha3
namespace EcdsaVectors

open Digest

/-- The digest of a message. -/
def HashName.digest : HashName → Octets → Octets
  | sha1 => Sha1.digest
  | sha224 => Sha2.short.digest 28 Sha2.initial224
  | sha256 => Sha2.short.digest 32 Sha2.initial256
  | sha384 => Sha2.long.digest 48 Sha2.initial384
  | sha512 => Sha2.long.digest 64 Sha2.initial512
  | sha512_224 => Sha2.long.digest 28 Sha2.initial512_224
  | sha512_256 => Sha2.long.digest 32 Sha2.initial512_256
  | sha3_224 => Sha3.digest 28
  | sha3_256 => Sha3.digest 32
  | sha3_384 => Sha3.digest 48
  | sha3_512 => Sha3.digest 64

/-- The length in octets of the blocks that the message is cut into. -/
def HashName.blockLength : HashName → Nat
  | sha1 | sha224 | sha256 => 64
  | sha384 | sha512 | sha512_224 | sha512_256 => 128
  | sha3_224 => 144
  | sha3_256 => 136
  | sha3_384 => 104
  | sha3_512 => 72

/-- The digest of a message under a key: the hash function is applied twice, each time to a
block made from the key in front.  A key longer than a block is replaced by its digest. -/
def HashName.keyedDigest (h : HashName) (key m : Octets) : Octets :=
  let n := h.blockLength
  let key := if key.length ≤ n then key else h.digest key
  let block := key ++ List.replicate (n - key.length) 0
  h.digest (block.map (· ^^^ 0x5c) ++ h.digest (block.map (· ^^^ 0x36) ++ m))

end EcdsaVectors
