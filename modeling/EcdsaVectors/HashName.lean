/-
The names of the eleven hash functions of the SHA families, with the sizes of their digests.
-/
import EcdsaVectors.Named
namespace EcdsaVectors

/-- The name of a hash function.  The last number is the size of the digest in bits. -/
inductive HashName where
  | sha1
  | sha224 | sha256 | sha384 | sha512 | sha512_224 | sha512_256
  | sha3_224 | sha3_256 | sha3_384 | sha3_512
  deriving DecidableEq, Repr

namespace HashName

/-- The name as one word. -/
def identifier : HashName → String
  | sha1 => "Sha1"
  | sha224 => "Sha224" | sha256 => "Sha256" | sha384 => "Sha384" | sha512 => "Sha512"
  | sha512_224 => "Sha512_224" | sha512_256 => "Sha512_256"
  | sha3_224 => "Sha3_224" | sha3_256 => "Sha3_256" | sha3_384 => "Sha3_384"
  | sha3_512 => "Sha3_512"

/-- The name as vector files write it.  The second family has its number in the name, the first
does not. -/
def text : HashName → String
  | sha1 => "SHA-1"
  | sha224 => "SHA2-224" | sha256 => "SHA2-256" | sha384 => "SHA2-384" | sha512 => "SHA2-512"
  | sha512_224 => "SHA2-512/224" | sha512_256 => "SHA2-512/256"
  | sha3_224 => "SHA3-224" | sha3_256 => "SHA3-256" | sha3_384 => "SHA3-384"
  | sha3_512 => "SHA3-512"

instance : Named HashName where
  all := [sha1, sha224, sha256, sha384, sha512, sha512_224, sha512_256, sha3_224, sha3_256,
    sha3_384, sha3_512]
  identifier := identifier
  text := text

theorem proper : Named.Proper HashName where
  listed h := by cases h <;> decide
  distinct := by decide +kernel

/-- The length of the digest in octets. -/
def digestLength : HashName → Nat
  | sha1 => 20
  | sha224 | sha512_224 | sha3_224 => 28
  | sha256 | sha512_256 | sha3_256 => 32
  | sha384 | sha3_384 => 48
  | sha512 | sha3_512 => 64

end HashName

end EcdsaVectors
