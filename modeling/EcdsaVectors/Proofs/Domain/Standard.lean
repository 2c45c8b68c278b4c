/-
The standard curves over prime fields of up to 384 bits are lawful.

One certificate holds the moduli and the orders of these curves, with all primes that are
needed to see that they are prime (`standardPrimes`).  The rest is computed.
-/
import EcdsaVectors.Domain.Standard
import EcdsaVectors.Proofs.Domain.Prime
namespace EcdsaVectors

/-- The moduli and orders of these curves, after the primes that they rest on. -/
def standardPrimes : List PrimeEntry :=
  [ ⟨2, 1, []⟩, ⟨3, 1, []⟩, ⟨5, 2, [(2, 2)]⟩, ⟨7, 3, [(2, 1)]⟩, ⟨11, 2, [(5, 1)]⟩,
    ⟨13, 2, [(2, 2)]⟩, ⟨17, 3, [(2, 4)]⟩, ⟨19, 2, [(3, 2)]⟩, ⟨23, 2, [(11, 1)]⟩,
    ⟨29, 2, [(7, 1)]⟩, ⟨31, 3, [(2, 1), (3, 1)]⟩, ⟨37, 2, [(3, 2)]⟩, ⟨43, 3, [(2, 1), (3, 1)]⟩,
    ⟨53, 2, [(13, 1)]⟩, ⟨59, 2, [(29, 1)]⟩, ⟨61, 2, [(2, 2), (3, 1)]⟩, ⟨79, 2, [(13, 1)]⟩,
    ⟨103, 2, [(17, 1)]⟩, ⟨107, 2, [(53, 1)]⟩, ⟨131, 2, [(13, 1)]⟩, ⟨163, 2, [(3, 4)]⟩,
    ⟨173, 2, [(43, 1)]⟩, ⟨181, 2, [(2, 2), (3, 2)]⟩, ⟨197, 2, [(7, 2)]⟩,
    ⟨199, 3, [(2, 1), (3, 2)]⟩, ⟨211, 2, [(3, 1), (5, 1)]⟩, ⟨229, 2, [(19, 1)]⟩,
    ⟨233, 2, [(29, 1)]⟩, ⟨239, 2, [(17, 1)]⟩, ⟨251, 3, [(5, 3)]⟩, ⟨257, 3, [(2, 8)]⟩,
    ⟨271, 2, [(3, 3)]⟩, ⟨311, 2, [(31, 1)]⟩, ⟨337, 10, [(2, 4), (3, 1)]⟩,
    ⟨599, 7, [(2, 1), (13, 1)]⟩, ⟨619, 2, [(103, 1)]⟩, ⟨641, 3, [(2, 7)]⟩, ⟨727, 2, [(11, 2)]⟩,
    ⟨881, 3, [(2, 4), (5, 1)]⟩, ⟨2389, 2, [(199, 1)]⟩, ⟨2477, 2, [(619, 1)]⟩,
    ⟨3253, 2, [(271, 1)]⟩, ⟨3407, 2, [(131, 1)]⟩, ⟨8389, 2, [(233, 1)]⟩,
    ⟨9547, 2, [(3, 1), (37, 1)]⟩, ⟨10909, 2, [(2, 2), (3, 3)]⟩, ⟨17449, 2, [(727, 1)]⟩,
    ⟨37447, 2, [(79, 2)]⟩, ⟨38189, 2, [(9547, 1)]⟩, ⟨38557, 2, [(2, 2), (3, 4)]⟩,
    ⟨54251, 2, [(2, 1), (5, 3)]⟩, ⟨54623, 2, [(881, 1)]⟩, ⟨104471, 2, [(337, 1)]⟩,
    ⟨149309, 2, [(2, 2), (163, 1)]⟩, ⟨248431, 2, [(3, 1), (5, 1), (7, 2)]⟩,
    ⟨312289, 2, [(3253, 1)]⟩, ⟨379787, 2, [(11, 1), (61, 1)]⟩, ⟨3969899, 2, [(104471, 1)]⟩,
    ⟨8463023, 2, [(37447, 1)]⟩, ⟨9350987, 2, [(17, 1), (229, 1)]⟩,
    ⟨9863677, 5, [(2, 2), (3, 2), (311, 1)]⟩, ⟨11105363, 2, [(10909, 1)]⟩,
    ⟨11393611, 2, [(379787, 1)]⟩, ⟨105957871, 2, [(5, 1), (19, 1), (211, 1)]⟩,
    ⟨187019741, 2, [(9350987, 1)]⟩, ⟨204061199, 3, [(11, 1), (23, 1), (107, 1)]⟩,
    ⟨311245691, 2, [(7, 1), (17, 1), (29, 2)]⟩, ⟨513928823, 2, [(59, 1), (599, 1)]⟩,
    ⟨622491383, 2, [(311245691, 1)]⟩, ⟨821796863, 2, [(11105363, 1)]⟩,
    ⟨34282281433, 2, [(204061199, 1)]⟩, ⟨53448597593, 2, [(513928823, 1)]⟩,
    ⟨66417393611, 2, [(53, 1), (173, 1), (197, 1)]⟩, ⟨1002328039319, 2, [(3969899, 1)]⟩,
    ⟨11290956913871, 2, [(66417393611, 1)]⟩, ⟨37344768852931, 2, [(9863677, 1)]⟩,
    ⟨432621809776543, 2, [(821796863, 1)]⟩,
    ⟨7244839476697597, 2, [(2, 2), (3, 1), (239, 1), (54623, 1)]⟩,
    ⟨55942463741690639, 2, [(37344768852931, 1)]⟩,
    ⟨108341181769254293, 2, [(43, 1), (2477, 1), (54251, 1)]⟩,
    ⟨1357291859799823621, 2, [(53448597593, 1)]⟩,
    ⟨0x1cb733b306cfe30dd1, 2, [(7, 1), (181, 1), (105957871, 1)]⟩,
    ⟨0x7e966779a05e328ce6915, 2, [(7244839476697597, 1)]⟩,
    ⟨0x70d411d89618dbfe3ebdd1, 2, [(432621809776543, 1)]⟩,
    ⟨0x1b54cb03ae59ed185e2c4486e75, 2, [(0x70d411d89618dbfe3ebdd1, 1)]⟩,
    ⟨0x44f817a026114c922427bc213ae265fafd9, 2, [(0x1b54cb03ae59ed185e2c4486e75, 1)]⟩,
    ⟨0x22b559b5c816ae00f2378e18df38c5410ed597, 2, [(34282281433, 1), (11290956913871, 1)]⟩,
    ⟨0x926d1276e41fae13fdda5f78edb7802a76951509, 2,
      [(0x22b559b5c816ae00f2378e18df38c5410ed597, 1)]⟩,
    ⟨0xffffffffffffffffffffffff99def836146bc9b1b4d22831, 2,
      [(5, 1), (2389, 1), (0x7e966779a05e328ce6915, 1)]⟩,
    ⟨0xfffffffffffffffffffffffffffffffeffffffffffffffff, 2,
      [(149309, 1), (11393611, 1), (108341181769254293, 1)]⟩,
    ⟨0x80c63bd8a8b2da59fd7b637139afe83defb38e5bc128c6a53, 2,
      [(0x44f817a026114c922427bc213ae265fafd9, 1)]⟩,
    ⟨0xa8c55f664384d6fe203ca16a45d7238cad2d61237ce2fa5933, 2,
      [(251, 1), (248431, 1), (8463023, 1), (55942463741690639, 1)]⟩,
    ⟨0xffffffffffffffffffffffffffff16a2e0b8f03e13dd29455c5c2a3d, 2,
      [(0x80c63bd8a8b2da59fd7b637139afe83defb38e5bc128c6a53, 1)]⟩,
    ⟨0xffffffffffffffffffffffffffffffff000000000000000000000001, 11,
      [(2, 96), (257, 1), (641, 1)]⟩,
    ⟨0xffffffff00000000ffffffffffffffffbce6faada7179e84f3b9cac2fc632551, 2,
      [(3407, 1), (17449, 1), (38189, 1), (187019741, 1), (622491383, 1), (1002328039319, 1)]⟩,
    ⟨0xffffffff00000001000000000000000000000000ffffffffffffffffffffffff, 2,
      [(0x926d1276e41fae13fdda5f78edb7802a76951509, 1)]⟩,
    ⟨0x192a43d8f8a55b860e20c52b200024fbdd5c39850b80be9fa08e6156d781713c6b252c7, 2,
      [(0xa8c55f664384d6fe203ca16a45d7238cad2d61237ce2fa5933, 1)]⟩,
    ⟨0x23108c4e1b4108ec0ae7f9ac9f118677a6c53e44fd12fcacc07b805145240aae82349d3ce0e376778bd1, 2,
      [(8389, 1), (38557, 1), (312289, 1), (1357291859799823621, 1),
        (0x1cb733b306cfe30dd1, 1)]⟩,
    ⟨Domain.p384.order, 2,
      [(0x192a43d8f8a55b860e20c52b200024fbdd5c39850b80be9fa08e6156d781713c6b252c7, 1)]⟩,
    ⟨2 ^ 384 - 2 ^ 128 - 2 ^ 96 + 2 ^ 32 - 1, 2,
      [(0x23108c4e1b4108ec0ae7f9ac9f118677a6c53e44fd12fcacc07b805145240aae82349d3ce0e376778bd1,
        1)]⟩ ]

lemma prime_of_mem_standardPrimes {n : Nat} (h : n ∈ standardPrimes.map PrimeEntry.number) :
    n.Prime := by
  have hcertificate : Certificate [] standardPrimes := by decide +kernel
  obtain ⟨e, he, rfl⟩ := List.mem_map.1 h
  exact prime_of_certificate (by simp) hcertificate e he

namespace Domain

/-- A domain is certified if its modulus and its order are listed and its numbers are sound. -/
lemma certified_of_mem {p a b x y n : Nat} (hp : p ∈ standardPrimes.map PrimeEntry.number)
    (hn : n ∈ standardPrimes.map PrimeEntry.number) (h : Sound p a b x y n) :
    (overPrime p a b x y n).Certified :=
  .mk (prime_of_mem_standardPrimes hp) (prime_of_mem_standardPrimes hn) h

/-- There are certificates for the standard domains over prime fields of up to 384 bits. -/
lemma certified_standard {C : CurveName} (hC : C ∈ [.p192, .p224, .p256, .p384]) :
    (standard C).Certified := by
  simp only [List.mem_cons, List.not_mem_nil, or_false] at hC
  rcases hC with rfl | rfl | rfl | rfl <;>
    exact certified_of_mem (by decide +kernel) (by decide +kernel) (by decide +kernel)

/-- **The standard domains over prime fields of up to 384 bits are lawful.** -/
theorem lawful_standard {C : CurveName} (hC : C ∈ [.p192, .p224, .p256, .p384]) :
    (standard C).Lawful := (certified_standard hC).lawful

lemma lawful_p256 : p256.Lawful := lawful_standard (C := .p256) (by decide)

lemma lawful_p384 : p384.Lawful := lawful_standard (C := .p384) (by decide)

end Domain

end EcdsaVectors
