import EcdsaVectors.Octets.Lemmas
import EcdsaVectors.Fault
import EcdsaVectors.Field
import EcdsaVectors.Domain.Standard
import EcdsaVectors.Digest
import EcdsaVectors.Ecdsa
import EcdsaVectors.Ecdsa.Nonce
import EcdsaVectors.Entropy
import EcdsaVectors.Event
import EcdsaVectors.Program
import EcdsaVectors.GroupKey.Table
import EcdsaVectors.Run
import EcdsaVectors.Backend.FixedWidth
import EcdsaVectors.Stream
import EcdsaVectors.Scenario
import EcdsaVectors.Exercise
import EcdsaVectors.Rehearsal
import EcdsaVectors.Proofs.GroupKey.Forgetting
import EcdsaVectors.Proofs.Backend.Faithful
import EcdsaVectors.Proofs.Backend.FixedWidth
import EcdsaVectors.Proofs.Program.Calls
import EcdsaVectors.Proofs.Program.Related
import EcdsaVectors.Proofs.Backend.Common
import EcdsaVectors.Proofs.Backend.Textbook
import EcdsaVectors.Proofs.Codec.Related
import EcdsaVectors.Proofs.Run.Alike
import EcdsaVectors.Proofs.Field.Realization
import EcdsaVectors.Proofs.Domain.Lawful
import EcdsaVectors.Proofs.Codec.Textbook
import EcdsaVectors.Proofs.Run.Textbook
import EcdsaVectors.Proofs.Stream.History
import EcdsaVectors.Proofs.Backend.Library
import EcdsaVectors.Proofs.Program.Course
import EcdsaVectors.Proofs.Run.Course
import EcdsaVectors.Proofs.Stream.RoundTrip
import EcdsaVectors.Proofs.Curve.Weierstrass
import EcdsaVectors.Proofs.Primality
import EcdsaVectors.Proofs.Domain.Prime
import EcdsaVectors.Proofs.Domain.Standard
import EcdsaVectors.Proofs.Run.Verdict
import EcdsaVectors.Proofs.Stream.Slot
import EcdsaVectors.Proofs.Backend.Steady
import EcdsaVectors.Proofs.Run.Faults
import EcdsaVectors.Proofs.Codec.Route
import EcdsaVectors.Proofs.Codec.Course
import EcdsaVectors.Proofs.Codec.RoundTrip
import EcdsaVectors.Proofs.Run.Changes
import EcdsaVectors.Proofs.Backend.Functional
import EcdsaVectors.Proofs.Stream.Isolation
import EcdsaVectors.Proofs.Domain.Signature
import EcdsaVectors.Proofs.Run.Check
import EcdsaVectors.Proofs.Stream.Account
import EcdsaVectors.Proofs.Stream.Ledger
import EcdsaVectors.Proofs.Run.Inputs
import EcdsaVectors.Proofs.Program.Route
import EcdsaVectors.Proofs.Run.Route
import EcdsaVectors.Proofs.Backend.Failing
import EcdsaVectors.Proofs.Run.Retry
import EcdsaVectors.Proofs.Stream.Renaming
import EcdsaVectors.Proofs.Codec.Canonical
import EcdsaVectors.Proofs.Stream.Outputs
import EcdsaVectors.Proofs.Program.Reports
import EcdsaVectors.Proofs.Backend.Falters
import EcdsaVectors.Proofs.Run.Reports
import EcdsaVectors.Proofs.Stream.Log
import EcdsaVectors.Proofs.Curve.Cubic
import EcdsaVectors.Proofs.Curve.Order
import EcdsaVectors.Proofs.Domain.Combination
import EcdsaVectors.Proofs.Domain.Elliptic
import EcdsaVectors.Proofs.Domain.Tampering
import EcdsaVectors.Proofs.Run.Tampering
import EcdsaVectors.Proofs.Run.Twins
import EcdsaVectors.Proofs.Octets.Bits
import EcdsaVectors.Proofs.Octets.Buffer
import EcdsaVectors.Proofs.Backend.Prehash
import EcdsaVectors.Proofs.Run.Trimmed
