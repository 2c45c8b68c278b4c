/-
Signatures over a domain, by the textbook.

The signer and the verifier take the digest of the message as an integer `e`, of which only as
many leading bits count as the order has (`digestInteger`).  The verifier says not only whether
a signature holds but also why not (`Finding`), since the reasons are reported apart.
-/
import EcdsaVectors.Domain
import EcdsaVectors.Octets
namespace EcdsaVectors

/-- A point that serves as a public key, by its coordinates as elements of the field. -/
structure PublicKey where
  domain : Domain
  x : Nat
  y : Nat
  deriving DecidableEq

/-- A private scalar with its public key. -/
structure KeyPair where
  scalar : Nat
  key : PublicKey
  deriving DecidableEq

/-- The two components of a signature. -/
structure Signature where
  r : Nat
  s : Nat
  deriving DecidableEq, Repr

/-- What a verifier finds. -/
inductive Finding where
  /-- The signature holds. -/
  | valid
  /-- A component is zero, or not below the order. -/
  | outOfRange
  /-- The point to be compared is the one at infinity. -/
  | atInfinity
  /-- The point to be compared is another one. -/
  | mismatch
  deriving DecidableEq, Repr

namespace PublicKey

/-- The key as a point. -/
def point (Q : PublicKey) : Point := .affine Q.x Q.y

/-- The numbers that stand for the coordinates of the key. -/
def coordinates (Q : PublicKey) : Nat × Nat :=
  (Q.domain.curve.field.toNat Q.x, Q.domain.curve.field.toNat Q.y)

end PublicKey

namespace Domain

variable (D : Domain)

/-- The public key with the given coordinates. -/
def publicKey? (x y : Nat) : Option PublicKey :=
  (D.publicPoint? x y).map fun (x, y) => ⟨D, x, y⟩

/-- The key pair of a private scalar, which is a positive number below the order. -/
def keyPair? (d : Nat) : Option KeyPair :=
  if 0 < d ∧ d < D.order then
    match D.curve.multiple d D.base with
    | .infinity => none
    | .affine x y => some ⟨d, ⟨D, x, y⟩⟩
  else none

/-- The integer of the leftmost bits of a digest: all of them, or as many as the order has. -/
def digestInteger (h : Octets) : Nat :=
  h.value >>> (8 * h.length - D.orderBits)

/-- The inverse of a number modulo the order. -/
def scalarInverse (s : Nat) : Nat :=
  (Field.prime D.order).inv s

/-- The number that stands for the abscissa of a point, modulo the order. -/
def abscissa (x : Nat) : Nat :=
  D.curve.field.toNat x % D.order

/-- The signature of the integer `e` under the scalar `d` with the nonce `k`, unless a
component would be zero. -/
def sign (d e k : Nat) : Option Signature :=
  match D.curve.multiple k D.base with
  | .infinity => none
  | .affine x _ =>
    let r := D.abscissa x
    let s := D.scalarInverse k * (e + r * d) % D.order
    if r = 0 ∨ s = 0 then none else some ⟨r, s⟩

/-- The point whose abscissa a verifier compares with `r`. -/
def verifyingPoint (Q : Point) (e r s : Nat) : Point :=
  let w := D.scalarInverse s
  D.curve.add (D.curve.multiple (e * w % D.order) D.base) (D.curve.multiple (r * w % D.order) Q)

/-- What a verifier finds on the signature of the integer `e`. -/
def verify (Q : Point) (e : Nat) (S : Signature) : Finding :=
  if 0 < S.r ∧ S.r < D.order ∧ 0 < S.s ∧ S.s < D.order then
    match D.verifyingPoint Q e S.r S.s with
    | .infinity => .atInfinity
    | .affine x _ => if D.abscissa x = S.r then .valid else .mismatch
  else .outOfRange

end Domain

end EcdsaVectors
