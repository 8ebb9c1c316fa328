import Mathlib.GroupTheory.OrderOfElement
import SeedWallet.Proofs.CurveGroup

/-!
# Two parties share a secret

The generator has the order by which scalars are reduced: that many times the generator is computed to
be the neutral element, and the number is a prime. So no product of secret keys leads to the neutral
element, every multiple that is taken is the public key of a point, and the order in which two parties
multiply does not matter.

- `addOrderOf_generator`: the order of the generator.
- `SecretKey.point_publicKey`: the point of a public key that belongs to a secret key.
- `SecretKey.point_times_publicKey`: the point that is common to two keys.
- `SecretKey.shared_comm`: both parties come to the same secret.
-/

namespace SeedWallet

open PublicKey (generator)

/-! ## The generator -/

theorem curveOrder_nsmul_generator : curveOrder • generator.point = 0 := by
  have hstands := Jacobian.multiple_stands (Jacobian.ofPublicKey_stands generator)
    (k := curveOrder) (by decide)
  -- the multiple is computed as any other, and its last coordinate is zero
  exact (Jacobian.z_eq_zero_iff hstands).mp (by decide +kernel)

/-- The generator has prime order. -/
theorem addOrderOf_generator : addOrderOf generator.point = curveOrder :=
  addOrderOf_eq_prime curveOrder_nsmul_generator generator.point_ne_zero

theorem nsmul_generator_eq_zero_iff (k : ℕ) : k • generator.point = 0 ↔ curveOrder ∣ k := by
  rw [← addOrderOf_dvd_iff_nsmul_eq_zero, addOrderOf_generator]

/-! ## Multiples of keys -/

/-- A multiple that is not the neutral element is the point that is computed. -/
theorem PublicKey.point_times {p : PublicKey} {k : SecretKey} (h : k.scalar.val • p.point ≠ 0) :
    (p.times k).point = k.scalar.val • p.point := by
  obtain ⟨l, hl⟩ := PublicKey.exists_point_eq h
  have hk : k.scalar.val < 2 ^ 256 := lt_trans k.scalar.isLt (by decide)
  have hstands := Jacobian.multiple_stands (Jacobian.ofPublicKey_stands p) hk
  rw [PublicKey.times, (Jacobian.toPublicKey?_eq_some_iff hstands l).mpr hl, Option.getD_some, hl]

namespace SecretKey

theorem not_curveOrder_dvd (k : SecretKey) : ¬ curveOrder ∣ k.scalar.val := by
  have hpos : 0 < k.scalar.val := Fin.pos_iff_ne_zero.mpr k.nonzero
  exact Nat.not_dvd_of_pos_of_lt hpos k.scalar.isLt

/-- The public key of a secret key is a multiple of the generator. -/
theorem point_publicKey (k : SecretKey) : k.publicKey.point = k.scalar.val • generator.point := by
  apply PublicKey.point_times
  rw [Ne, nsmul_generator_eq_zero_iff]
  exact k.not_curveOrder_dvd

/-- The point common to two keys is the multiple of the generator by both. -/
theorem point_times_publicKey (a b : SecretKey) :
    (b.publicKey.times a).point = (a.scalar.val * b.scalar.val) • generator.point := by
  have hmul : a.scalar.val • b.publicKey.point =
      (a.scalar.val * b.scalar.val) • generator.point := by
    rw [point_publicKey, ← mul_nsmul']
  rw [← hmul]
  apply PublicKey.point_times
  rw [hmul, Ne, nsmul_generator_eq_zero_iff, prime_curveOrder.dvd_mul, not_or]
  exact ⟨a.not_curveOrder_dvd, b.not_curveOrder_dvd⟩

/-- Each of two parties finds the same point with its own key and the other's public key. -/
theorem times_publicKey_comm (a b : SecretKey) :
    b.publicKey.times a = a.publicKey.times b := by
  apply PublicKey.point_injective
  rw [point_times_publicKey, point_times_publicKey, mul_comm]

/-- So both share a secret. -/
theorem shared_comm (a b : SecretKey) : a.shared b.publicKey = b.shared a.publicKey := by
  rw [shared, shared, times_publicKey_comm]

end SecretKey

end SeedWallet
