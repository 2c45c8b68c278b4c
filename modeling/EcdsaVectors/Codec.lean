/-
Reading and writing the values of a backend.

The octets of a test case are numbers, most significant octet first.  An empty string is no
number, not even zero: it is refused before the backend sees it.  What is written has the
length that the backend chooses.  Names of curves and hash functions are looked up likewise.
-/
import EcdsaVectors.Program
namespace EcdsaVectors.Codec

open Program

variable {V : Values}

/-! ## Names -/

/-- Looks up a curve. -/
def lookUpCurve (name : CurveName) : Program V V.Curve := do
  match ← query (.curve name) with
  | some c => pure c
  | none => refuse (.curveUnsupported name) (.unsupportedCurve name)

/-- Looks up the hash function that a case names, if it names one. -/
def lookUpHash : Option HashName → Program V V.Digest
  | none => refuse .hashMissing .missingHash
  | some name => do
    match ← query (.digest name) with
    | some h => pure h
    | none => refuse (.hashUnsupported name) (.unsupportedHash name)

/-! ## Scalars and signatures -/

/-- Reads a scalar. -/
def readScalar (b : Octets) : Program V V.Integer :=
  if b = [] then refuse .scalarEmpty (.invalidEncoding "empty scalar")
  else query (.integerOfOctets b) >>= ofAnswer

/-- Writes a number. -/
def writeInteger (i : V.Integer) : Program V Octets :=
  query (.octetsOfInteger i)

/-- Writes two numbers, one after the other. -/
def writeIntegers (p : V.Integer × V.Integer) : Program V (Octets × Octets) := do
  let a ← writeInteger p.1
  let b ← writeInteger p.2
  pure (a, b)

/-- Reads the two components of a signature. -/
def readSignature (r s : Octets) : Program V V.Signature := do
  let r ← readScalar r
  let s ← readScalar s
  query (.signatureOfComponents r s) >>= ofAnswer

/-- Writes the two components of a signature. -/
def writeSignature (S : V.Signature) : Program V (Octets × Octets) := do
  let p ← query (.components S) >>= ofAnswer
  writeIntegers p

/-! ## Points -/

/-- Reads a public key; there is none where the coordinates are not those of a valid one.  Both
coordinates are looked at before either is read. -/
def readPoint (curve : V.Curve) (qx qy : Octets) : Program V (Option V.PublicKey) :=
  if qx = [] then refuse .firstCoordinateEmpty (.invalidEncoding "empty qx")
  else if qy = [] then refuse .secondCoordinateEmpty (.invalidEncoding "empty qy")
  else do
    let x ← query (.integerOfOctets qx) >>= ofAnswer
    let y ← query (.integerOfOctets qy) >>= ofAnswer
    query (.publicKeyOfCoordinates curve x y) >>= ofAnswer

/-- Writes the coordinates of a public key. -/
def writePoint (key : V.PublicKey) : Program V (Octets × Octets) := do
  let p ← query (.coordinates key) >>= ofAnswer
  writeIntegers p

end EcdsaVectors.Codec
