import Mathlib.GroupTheory.Perm.Cycle.Type
import Mathlib.GroupTheory.SpecificGroups.Cyclic.Basic
import Mathlib.SetTheory.Cardinal.Finite
import SeedWallet.Proofs.PublicKeys
import SeedWallet.Proofs.SharedSecrets

/-!
# Every public key belongs to one secret key

The generator has the order by which scalars are reduced, and the curve has no other points than its
multiples. A first coordinate belongs to at most two points, so the curve has at most one more than twice
as many points as there are coordinates. That is less than three times the order of the generator. Twice
the order it cannot be, for then some point would be its own negative; the second coordinate of such a
point is zero, and `-7` is no cube.

- `PublicKey.card_le`: how many public keys there can be.
- `curve.eq_zero_of_add_self`: no point is its own negative.
- `curve.card_point`: the curve has as many points as the order of the generator, which is a prime.
- `nsmul_generator_inj`: scalars with one multiple of the generator are one.
- `SecretKey.publicKey_bijective`: secret keys and public keys correspond one to one.
- `PublicKey.point_times_eq`: the product of any public key and any secret key is the one that is meant.
-/

namespace SeedWallet

open PublicKey (generator)
open FieldElement (residue)
open WeierstrassCurve.Affine (Point)
open scoped Fin.CommRing

/-! ## How many points there are -/

namespace PublicKey

/-- A public key is known by its first coordinate and the parity of the second one. -/
theorem eq_of_isOdd_eq {p q : PublicKey} (hx : p.x = q.x) (hodd : p.y.isOdd = q.y.isOdd) : p = q := by
  have hp := p.ofAbscissa?_self
  rw [hx, hodd, q.ofAbscissa?_self] at hp
  exact (Option.some.inj hp).symm

/-- What a public key is known by. -/
def code (p : PublicKey) : FieldElement × Bool :=
  (p.x, p.y.isOdd)

theorem code_injective : Function.Injective code := by
  intro p q h
  obtain ⟨hx, hodd⟩ := Prod.ext_iff.mp h
  exact eq_of_isOdd_eq hx hodd

instance : Finite PublicKey :=
  Finite.of_injective code code_injective

/-- There are at most two public keys for each first coordinate. -/
theorem card_le : Nat.card PublicKey ≤ 2 * fieldPrime := by
  calc Nat.card PublicKey
      ≤ Nat.card (FieldElement × Bool) := Nat.card_le_card_of_injective code code_injective
    _ = Nat.card FieldElement * Nat.card Bool := Nat.card_prod FieldElement Bool
    _ = 2 * fieldPrime := by
      rw [Nat.card_eq_fintype_card, Nat.card_eq_fintype_card, Fintype.card_fin, Fintype.card_bool,
        Nat.mul_comm]

/-- The point of a public key, or the neutral element. -/
def pointOrZero : Option PublicKey → curve.Point
  | none => 0
  | some p => p.point

theorem pointOrZero_surjective : Function.Surjective pointOrZero := by
  intro P
  by_cases hP : P = 0
  · exact ⟨none, hP.symm⟩
  · obtain ⟨p, hp⟩ := exists_point_eq hP
    exact ⟨some p, hp⟩

end PublicKey

namespace curve

instance : Finite curve.Point :=
  Finite.of_surjective PublicKey.pointOrZero PublicKey.pointOrZero_surjective

theorem card_point_le : Nat.card curve.Point ≤ 2 * fieldPrime + 1 := by
  calc Nat.card curve.Point
      ≤ Nat.card (Option PublicKey) :=
        Nat.card_le_card_of_surjective _ PublicKey.pointOrZero_surjective
    _ = Nat.card PublicKey + 1 := Finite.card_option
    _ ≤ 2 * fieldPrime + 1 := Nat.succ_le_succ PublicKey.card_le

/-! ## No point is its own negative -/

/-- `-7` is no cube: the power that is one for all cubes is another number. -/
theorem cube_ne_neg_seven (x : ZMod fieldPrime) : x ^ 3 ≠ -7 := by
  intro hcube
  have hexponent : 3 * ((fieldPrime - 1) / 3) = fieldPrime - 1 := by decide
  have hpower : residue (Modular.pow (-7) ((fieldPrime - 1) / 3)) = x ^ (fieldPrime - 1) := by
    rw [residue, Modular.finEquiv_pow _ (by decide), ← residue, map_neg, FieldElement.residue_seven,
      ← hcube, ← pow_mul, hexponent]
  have hx : x ≠ 0 := by
    rintro rfl
    have hseven : (7 : ZMod fieldPrime) = 0 := by linear_combination hcube
    exact absurd hseven (by decide +kernel)
  rw [ZMod.pow_card_sub_one_eq_one hx] at hpower
  have hone : Modular.pow (-7 : FieldElement) ((fieldPrime - 1) / 3) = 1 :=
    residue.injective (hpower.trans (map_one residue).symm)
  exact absurd hone (by decide +kernel)

/-- The second coordinate of a point is not zero. -/
theorem y_ne_zero {x y : ZMod fieldPrime} (h : curve.Nonsingular x y) : y ≠ 0 := by
  rintro rfl
  have hequation := (nonsingular_iff x 0).mp h
  apply cube_ne_neg_seven x
  linear_combination -hequation

/-- So no point but the neutral one is its own negative. -/
theorem eq_zero_of_add_self {P : curve.Point} (h : P + P = 0) : P = 0 := by
  cases P with
  | zero => rfl
  | some x y hxy =>
    obtain ⟨ℓ, x₃, y₃, hsum, heq, -⟩ := exists_tangent hxy (y_ne_zero hxy)
    rw [heq] at h
    exact absurd h (Point.some_ne_zero hsum)

/-! ## The curve is generated -/

/-- The curve has as many points as the order of the generator. -/
theorem card_point : Nat.card curve.Point = curveOrder := by
  obtain ⟨index, hindex⟩ : curveOrder ∣ Nat.card curve.Point := by
    rw [← addOrderOf_generator]
    exact addOrderOf_dvd_natCard generator.point
  have hpos : 0 < Nat.card curve.Point := Nat.card_pos
  have hle := card_point_le
  have hsmall : 2 * fieldPrime + 1 < curveOrder * 3 := by decide
  have hthree : index < 3 := by
    apply Nat.lt_of_mul_lt_mul_left (a := curveOrder)
    omega
  have htwo : index ≠ 2 := by
    rintro rfl
    -- a group of even order has an element of order two
    obtain ⟨P, hP⟩ := exists_prime_addOrderOf_dvd_card' (G := curve.Point) 2 ⟨curveOrder, by omega⟩
    have hzero : P + P = 0 := by
      rw [← two_nsmul, ← hP]
      exact addOrderOf_nsmul_eq_zero P
    rw [eq_zero_of_add_self hzero, addOrderOf_zero] at hP
    exact absurd hP (by decide)
  have hone : index = 1 := by
    have hne : index ≠ 0 := by
      rintro rfl
      omega
    omega
  rw [hindex, hone, Nat.mul_one]

/-- Every point is a multiple of the generator. -/
theorem exists_nsmul_generator (P : curve.Point) : ∃ k : ℕ, k • generator.point = P :=
  (AddSubmonoid.mem_multiples_iff _ _).mp
    (mem_multiples_of_prime_card card_point generator.point_ne_zero)

end curve

/-! ## Scalars and multiples -/

/-- Numbers that are congruent modulo the order have one multiple. -/
theorem mod_curveOrder_nsmul (k : ℕ) : (k % curveOrder) • generator.point = k • generator.point := by
  rw [← addOrderOf_generator]
  exact mod_addOrderOf_nsmul generator.point k

/-- Scalars with one multiple of the generator are one. -/
theorem nsmul_generator_inj {a b : Scalar} :
    a.val • generator.point = b.val • generator.point ↔ a = b := by
  rw [nsmul_inj_mod, addOrderOf_generator, Nat.mod_eq_of_lt a.isLt, Nat.mod_eq_of_lt b.isLt,
    Fin.val_inj]

namespace SecretKey

/-- Secret keys and public keys correspond one to one. -/
theorem publicKey_bijective : Function.Bijective publicKey := by
  constructor
  · intro a b h
    have hpoint := congrArg PublicKey.point h
    rw [point_publicKey, point_publicKey, nsmul_generator_inj] at hpoint
    cases a
    cases b
    cases hpoint
    rfl
  · intro p
    obtain ⟨k, hk⟩ := curve.exists_nsmul_generator p.point
    rw [← mod_curveOrder_nsmul] at hk
    have hnonzero : Scalar.ofNat k ≠ 0 := by
      intro hzero
      have hval : k % curveOrder = 0 := congrArg Fin.val hzero
      rw [hval, zero_nsmul] at hk
      exact p.point_ne_zero hk.symm
    refine ⟨⟨Scalar.ofNat k, hnonzero⟩, ?_⟩
    apply PublicKey.point_injective
    rw [point_publicKey]
    exact hk

end SecretKey

/-- The multiple of a public key by a secret key is the point that is computed. -/
theorem PublicKey.point_times_eq (p : PublicKey) (k : SecretKey) :
    (p.times k).point = k.scalar.val • p.point := by
  obtain ⟨a, rfl⟩ := SecretKey.publicKey_bijective.2 p
  rw [SecretKey.point_times_publicKey, SecretKey.point_publicKey, ← mul_nsmul']

end SeedWallet
