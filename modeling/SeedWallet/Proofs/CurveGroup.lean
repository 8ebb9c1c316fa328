import Mathlib.AlgebraicGeometry.EllipticCurve.Affine.Point
import Mathlib.Tactic.FieldSimp
import Mathlib.Tactic.LinearCombination
import SeedWallet.Proofs.PrimeModuli

/-!
# Coordinates without division stand for points

Sums and multiples are computed with three coordinates and without division. They stand for points of
the elliptic curve `y² = x³ + 7` over the residues of the field prime: doubling stands for the sum of a
point with itself, adding for the sum, whatever the two points are, and a multiple for the multiple. So
what is known about the group of the curve holds of what is computed.

- `FieldElement.residue`: coordinates as residues.
- `curve`: the curve.
- `Jacobian.Stands`: the point that three coordinates stand for.
- `Jacobian.double_stands`, `Jacobian.add_stands`, `Jacobian.multiple_stands`: the group in coordinates.
- `PublicKey.point`: the point of a public key; there is one key for each point but the neutral one
  (`PublicKey.point_injective`, `PublicKey.exists_point_eq`).
- `Jacobian.toPublicKey?_eq_some_iff`: reading a key off.
-/

namespace SeedWallet

open WeierstrassCurve.Affine (Point)
open scoped Fin.CommRing

/-! ## The curve -/

namespace FieldElement

/-- Coordinates as residues modulo the field prime. -/
def residue : FieldElement ≃+* ZMod fieldPrime :=
  ZMod.finEquiv fieldPrime

@[simp] theorem residue_eq_zero_iff {a : FieldElement} : residue a = 0 ↔ a = 0 :=
  map_eq_zero_iff residue residue.injective

theorem residue_inverse (a : FieldElement) : residue (Modular.inverse a) = (residue a)⁻¹ :=
  Modular.finEquiv_inverse (by decide) (by decide) a

theorem residue_seven : residue 7 = 7 := by
  decide +kernel

end FieldElement

open FieldElement (residue residue_eq_zero_iff)

/-- The curve that public keys are points of. -/
def curve : WeierstrassCurve.Affine (ZMod fieldPrime) :=
  ⟨0, 0, 0, 0, 7⟩

namespace curve

theorem two_ne_zero : (2 : ZMod fieldPrime) ≠ 0 := by
  decide +kernel

theorem discriminant_ne_zero : curve.Δ ≠ 0 := by
  simp only [curve, WeierstrassCurve.Δ, WeierstrassCurve.b₂, WeierstrassCurve.b₄,
    WeierstrassCurve.b₆, WeierstrassCurve.b₈]
  decide +kernel

/-- Every solution of the equation is a point. -/
theorem nonsingular_iff (x y : ZMod fieldPrime) : curve.Nonsingular x y ↔ y ^ 2 = x ^ 3 + 7 := by
  rw [← curve.equation_iff_nonsingular_of_Δ_ne_zero discriminant_ne_zero,
    WeierstrassCurve.Affine.equation_iff]
  simp [curve]

theorem negY_eq (x y : ZMod fieldPrime) : curve.negY x y = -y := by
  simp [curve, WeierstrassCurve.Affine.negY]

theorem addX_eq (x₁ x₂ ℓ : ZMod fieldPrime) : curve.addX x₁ x₂ ℓ = ℓ ^ 2 - x₁ - x₂ := by
  simp [curve, WeierstrassCurve.Affine.addX]

theorem addY_eq (x₁ x₂ y₁ ℓ : ZMod fieldPrime) :
    curve.addY x₁ x₂ y₁ ℓ = -(ℓ * (curve.addX x₁ x₂ ℓ - x₁) + y₁) := by
  rw [WeierstrassCurve.Affine.addY, negY_eq, WeierstrassCurve.Affine.negAddY]

section

variable {x y x' y' : ZMod fieldPrime} (h : curve.Nonsingular x y) (h' : curve.Nonsingular x' y')

/-- The tangent through a point and its slope `ℓ`. -/
theorem exists_tangent (hy : y ≠ 0) :
    ∃ ℓ x₃ y₃, ∃ hsum : curve.Nonsingular x₃ y₃,
      Point.some x y h + .some x y h = .some x₃ y₃ hsum ∧ ℓ * (2 * y) = 3 * x ^ 2 ∧
        x₃ = ℓ ^ 2 - x - x ∧ y₃ = -(ℓ * (x₃ - x) + y) := by
  have h2y : 2 * y ≠ 0 := mul_ne_zero two_ne_zero hy
  have hden : y - -y = 2 * y := by ring
  have hne : y ≠ curve.negY x y := by
    rw [negY_eq]
    intro hneg
    exact h2y (by linear_combination hneg)
  refine ⟨_, _, _, _, Point.add_self_of_Y_ne hne, ?_, addX_eq .., addY_eq ..⟩
  rw [WeierstrassCurve.Affine.slope_of_Y_ne rfl hne, negY_eq, hden, div_mul_cancel₀ _ h2y]
  simp [curve]

/-- The chord through two points and its slope `ℓ`. -/
theorem exists_chord (hx : x ≠ x') :
    ∃ ℓ x₃ y₃, ∃ hsum : curve.Nonsingular x₃ y₃,
      Point.some x y h + .some x' y' h' = .some x₃ y₃ hsum ∧ ℓ * (x' - x) = y' - y ∧
        x₃ = ℓ ^ 2 - x - x' ∧ y₃ = -(ℓ * (x₃ - x) + y) := by
  refine ⟨_, _, _, _, Point.add_of_X_ne hx, ?_, addX_eq .., addY_eq ..⟩
  rw [WeierstrassCurve.Affine.slope_of_X_ne hx, ← neg_sub x x', mul_neg,
    div_mul_cancel₀ _ (sub_ne_zero.mpr hx), neg_sub]

end

end curve

/-! ## What coordinates stand for -/

namespace Jacobian

/-- Coordinates stand for the neutral element if the last one is zero, and else for the point whose
coordinates are the first two, divided by the square and the cube of the last one. -/
inductive Stands (p : Jacobian) : curve.Point → Prop
  | neutral (hz : residue p.z = 0) : p.Stands 0
  | affine {x y : ZMod fieldPrime} {h : curve.Nonsingular x y} (hz : residue p.z ≠ 0)
      (hx : residue p.x = x * residue p.z ^ 2) (hy : residue p.y = y * residue p.z ^ 3) :
      p.Stands (.some x y h)

variable {p q : Jacobian} {P Q : curve.Point}

theorem z_eq_zero_iff (h : p.Stands P) : p.z = 0 ↔ P = 0 := by
  rw [← residue_eq_zero_iff]
  cases h with
  | neutral hz => simp [hz]
  | affine hz => simp [hz, Point.some_ne_zero]

theorem neutral_stands : neutral.Stands 0 :=
  .neutral (map_zero residue)

/-! ### Doubling -/

theorem residue_double_x (p : Jacobian) :
    residue p.double.x = (3 * residue p.x ^ 2) ^ 2 - 8 * residue p.x * residue p.y ^ 2 := by
  simp only [double, map_add, map_sub, map_mul]
  ring

theorem residue_double_y (p : Jacobian) :
    residue p.double.y =
      3 * residue p.x ^ 2 * (4 * residue p.x * residue p.y ^ 2 - residue p.double.x) -
        8 * residue p.y ^ 4 := by
  simp only [double, map_add, map_sub, map_mul]
  ring

theorem residue_double_z (p : Jacobian) :
    residue p.double.z = 2 * residue p.y * residue p.z := by
  simp only [double, map_add, map_mul]
  ring

/-- Doubling stands for the sum of a point with itself. -/
theorem double_stands (h : p.Stands P) : p.double.Stands (P + P) := by
  cases h with
  | neutral hz =>
    rw [add_zero]
    refine .neutral ?_
    rw [residue_double_z, hz, mul_zero]
  | @affine x y h hz hx hy =>
    by_cases hzero : y = 0
    · -- the tangent is vertical
      rw [Point.add_self_of_Y_eq (by rw [curve.negY_eq, hzero, neg_zero])]
      refine .neutral ?_
      rw [residue_double_z, hy, hzero, zero_mul, mul_zero, zero_mul]
    · obtain ⟨ℓ, x₃, y₃, hsum, heq, hℓ, rfl, rfl⟩ := curve.exists_tangent h hzero
      rw [heq]
      refine .affine ?_ ?_ ?_
      · rw [residue_double_z, hy]
        have hy0 : y * residue p.z ^ 3 ≠ 0 := mul_ne_zero hzero (pow_ne_zero 3 hz)
        exact mul_ne_zero (mul_ne_zero curve.two_ne_zero hy0) hz
      · rw [residue_double_z, residue_double_x, hx, hy]
        -- what is computed has `3 * x ^ 2` where the sum has `ℓ * (2 * y)`: a difference of squares
        linear_combination (-residue p.z ^ 8 * (ℓ * (2 * y) + 3 * x ^ 2)) * hℓ
      · rw [residue_double_y, residue_double_z, residue_double_x, hx, hy]
        -- and here a difference of cubes
        linear_combination (-residue p.z ^ 12 * (12 * x * y ^ 2 -
          ((ℓ * (2 * y)) ^ 2 + ℓ * (2 * y) * (3 * x ^ 2) + (3 * x ^ 2) ^ 2))) * hℓ

/-! ### Adding -/

/-- How far the first coordinates of two points are apart, over a common denominator. -/
def xGap (p q : Jacobian) : FieldElement :=
  q.x * (p.z * p.z) - p.x * (q.z * q.z)

/-- How far the second coordinates are apart. -/
def yGap (p q : Jacobian) : FieldElement :=
  q.y * (p.z * p.z * p.z) - p.y * (q.z * q.z * q.z)

/-- The chord through two points. -/
def chord (p q : Jacobian) : Jacobian :=
  let u := p.x * (q.z * q.z)
  let s := p.y * (q.z * q.z * q.z)
  let h := xGap p q
  let r := yGap p q
  let x := r * r - h * h * h - (u * (h * h) + u * (h * h))
  ⟨x, r * (u * (h * h) - x) - s * (h * h * h), h * (p.z * q.z)⟩

/-- The three cases in which two points with coordinates are added. -/
theorem add_eq (hp : p.z ≠ 0) (hq : q.z ≠ 0) :
    p.add q = if xGap p q = 0 then if yGap p q = 0 then double p else neutral else chord p q := by
  rw [add, if_neg hp, if_neg hq]
  rfl

section

variable {x y x' y' : ZMod fieldPrime}

theorem residue_xGap (hx : residue p.x = x * residue p.z ^ 2)
    (hx' : residue q.x = x' * residue q.z ^ 2) :
    residue (xGap p q) = (x' - x) * (residue p.z * residue q.z) ^ 2 := by
  simp only [xGap, map_sub, map_mul, hx, hx']
  ring

theorem residue_yGap (hy : residue p.y = y * residue p.z ^ 3)
    (hy' : residue q.y = y' * residue q.z ^ 3) :
    residue (yGap p q) = (y' - y) * (residue p.z * residue q.z) ^ 3 := by
  simp only [yGap, map_sub, map_mul, hy, hy']
  ring

/-- The chord through points with different first coordinates stands for their sum. -/
theorem chord_stands {h : curve.Nonsingular x y} {h' : curve.Nonsingular x' y'}
    (hz : residue p.z ≠ 0) (hx : residue p.x = x * residue p.z ^ 2)
    (hy : residue p.y = y * residue p.z ^ 3) (hz' : residue q.z ≠ 0)
    (hx' : residue q.x = x' * residue q.z ^ 2) (hy' : residue q.y = y' * residue q.z ^ 3)
    (hne : x ≠ x') : (chord p q).Stands (.some x y h + .some x' y' h') := by
  have hxGap := residue_xGap hx hx'
  have hyGap := residue_yGap hy hy'
  have hchord : residue (chord p q).z = (x' - x) * (residue p.z * residue q.z) ^ 3 := by
    simp only [chord, map_mul, hxGap]
    ring
  obtain ⟨ℓ, x₃, y₃, hsum, heq, hℓ, rfl, rfl⟩ := curve.exists_chord h h' hne
  rw [heq]
  refine .affine ?_ ?_ ?_
  · rw [hchord]
    exact mul_ne_zero (sub_ne_zero.mpr hne.symm) (pow_ne_zero 3 (mul_ne_zero hz hz'))
  · rw [hchord]
    simp only [chord, map_sub, map_add, map_mul, hxGap, hyGap, hx]
    -- differences of powers as for the tangent, of `y' - y` and `ℓ * (x' - x)`
    linear_combination (-(residue p.z * residue q.z) ^ 6 * (ℓ * (x' - x) + (y' - y))) * hℓ
  · rw [hchord]
    simp only [chord, map_sub, map_add, map_mul, hxGap, hyGap, hx, hy]
    linear_combination (-(residue p.z * residue q.z) ^ 9 * ((x' - x) ^ 2 * (2 * x + x') -
      ((ℓ * (x' - x)) ^ 2 + ℓ * (x' - x) * (y' - y) + (y' - y) ^ 2))) * hℓ

end

/-- Adding stands for the sum. -/
theorem add_stands (hp : p.Stands P) (hq : q.Stands Q) : (p.add q).Stands (P + Q) := by
  cases hp with
  | neutral hz =>
    rw [add, if_pos (residue_eq_zero_iff.mp hz), zero_add]
    exact hq
  | @affine x y h hz hx hy =>
    have hpz : p.z ≠ 0 := mt residue_eq_zero_iff.mpr hz
    cases hq with
    | neutral hz' =>
      rw [add, if_neg hpz, if_pos (residue_eq_zero_iff.mp hz'), add_zero]
      exact .affine hz hx hy
    | @affine x' y' h' hz' hx' hy' =>
      have hw : residue p.z * residue q.z ≠ 0 := mul_ne_zero hz hz'
      have hxGap : xGap p q = 0 ↔ x' = x := by
        rw [← residue_eq_zero_iff, residue_xGap hx hx', mul_eq_zero_iff_right (pow_ne_zero 2 hw),
          sub_eq_zero]
      have hyGap : yGap p q = 0 ↔ y' = y := by
        rw [← residue_eq_zero_iff, residue_yGap hy hy', mul_eq_zero_iff_right (pow_ne_zero 3 hw),
          sub_eq_zero]
      rw [add_eq hpz (mt residue_eq_zero_iff.mpr hz')]
      by_cases hxx : x' = x
      · rw [if_pos (hxGap.mpr hxx)]
        by_cases hyy : y' = y
        · -- the points are one
          rw [if_pos (hyGap.mpr hyy)]
          subst hxx hyy
          exact double_stands (.affine hz hx hy)
        · -- the points are mirror images
          rw [if_neg (mt hyGap.mp hyy)]
          have hmirror := WeierstrassCurve.Affine.Y_eq_of_X_eq h.1 h'.1 hxx.symm
          rw [Point.add_of_Y_eq hxx.symm (hmirror.resolve_left (Ne.symm hyy))]
          exact neutral_stands
      · rw [if_neg (mt hxGap.mp hxx)]
        exact chord_stands hz hx hy hz' hx' hy' (Ne.symm hxx)

/-- A multiple stands for the multiple. -/
theorem multiple_stands (h : p.Stands P) {k : ℕ} (hk : k < 2 ^ 256) :
    (p.multiple k).Stands (k • P) := by
  have hzero : neutral.Stands ((0 : ℕ) • P) := by
    rw [zero_nsmul]
    exact neutral_stands
  have hdigits := Bits.foldl_of_step (fun r bit => if bit then (double r).add p else double r)
    (fun r k => Stands r (k • P)) ?_ hzero (Bits.ofNat 256 k)
  · rw [Bits.toNat_ofNat, Nat.mod_eq_of_lt hk, Nat.zero_mul, Nat.zero_add] at hdigits
    exact hdigits
  · intro r k b hr
    cases b with
    | false =>
      rw [if_neg Bool.false_ne_true, Bool.toNat_false, add_zero, two_mul, add_nsmul]
      exact double_stands hr
    | true =>
      rw [if_pos rfl, Bool.toNat_true, succ_nsmul, two_mul, add_nsmul]
      exact add_stands (double_stands hr) h

end Jacobian

/-! ## Public keys -/

namespace PublicKey

theorem nonsingular (k : PublicKey) : curve.Nonsingular (residue k.x) (residue k.y) := by
  have honCurve := congrArg residue k.onCurve
  rw [map_add, map_mul, map_mul, map_mul, FieldElement.residue_seven] at honCurve
  rw [curve.nonsingular_iff]
  linear_combination honCurve

/-- The point of a public key. -/
def point (k : PublicKey) : curve.Point :=
  .some (residue k.x) (residue k.y) k.nonsingular

theorem point_ne_zero (k : PublicKey) : k.point ≠ 0 :=
  Point.some_ne_zero _

theorem point_eq_some_iff (k : PublicKey) {x y : ZMod fieldPrime} {h : curve.Nonsingular x y} :
    k.point = .some x y h ↔ residue k.x = x ∧ residue k.y = y := by
  rw [point, Point.some.injEq]

/-- Public keys with one point are one. -/
theorem point_injective : Function.Injective point := by
  intro k l h
  obtain ⟨hx, hy⟩ := (point_eq_some_iff k).mp h
  obtain ⟨x, y, _⟩ := k
  obtain ⟨x', y', _⟩ := l
  obtain rfl : x = x' := residue.injective hx
  obtain rfl : y = y' := residue.injective hy
  rfl

/-- Every point but the neutral one is that of a public key. -/
theorem exists_point_eq {P : curve.Point} (hP : P ≠ 0) : ∃ k : PublicKey, k.point = P := by
  cases P with
  | zero => exact absurd rfl hP
  | some x y h =>
    have honCurve : residue.symm y * residue.symm y =
        residue.symm x * residue.symm x * residue.symm x + 7 := by
      apply residue.injective
      simp only [map_add, map_mul, RingEquiv.apply_symm_apply, FieldElement.residue_seven]
      linear_combination (curve.nonsingular_iff x y).mp h
    refine ⟨⟨_, _, honCurve⟩, ?_⟩
    rw [point_eq_some_iff, RingEquiv.apply_symm_apply, RingEquiv.apply_symm_apply]
    exact ⟨rfl, rfl⟩

end PublicKey

namespace Jacobian

theorem ofPublicKey_stands (k : PublicKey) : (ofPublicKey k).Stands k.point := by
  refine .affine ?_ ?_ ?_
  · exact (map_one residue).trans_ne one_ne_zero
  · simp [ofPublicKey]
  · simp [ofPublicKey]

/-- Reading a key off divides by the square and the cube of the last coordinate. -/
theorem toPublicKey?_eq {p : Jacobian} (hz : p.z ≠ 0) :
    p.toPublicKey? = PublicKey.ofCoordinates?
      (p.x * (Modular.inverse p.z * Modular.inverse p.z))
      (p.y * (Modular.inverse p.z * Modular.inverse p.z * Modular.inverse p.z)) := by
  rw [toPublicKey?, if_neg hz]
  rfl

/-- A public key is read off exactly if its point is the one that is stood for. -/
theorem toPublicKey?_eq_some_iff {p : Jacobian} {P : curve.Point} (h : p.Stands P) (k : PublicKey) :
    p.toPublicKey? = some k ↔ k.point = P := by
  cases h with
  | neutral hz =>
    rw [toPublicKey?, if_pos (residue_eq_zero_iff.mp hz)]
    simp [PublicKey.point_ne_zero]
  | @affine x y h hz hx hy =>
    obtain ⟨l, hl⟩ := PublicKey.exists_point_eq (Point.some_ne_zero h)
    obtain ⟨hlx, hly⟩ := (PublicKey.point_eq_some_iff l).mp hl
    have hx' : p.x * (Modular.inverse p.z * Modular.inverse p.z) = l.x := by
      apply residue.injective
      simp only [map_mul, FieldElement.residue_inverse, hx, hlx]
      field_simp
    have hy' : p.y * (Modular.inverse p.z * Modular.inverse p.z * Modular.inverse p.z) = l.y := by
      apply residue.injective
      simp only [map_mul, FieldElement.residue_inverse, hy, hly]
      field_simp
    rw [toPublicKey?_eq (mt residue_eq_zero_iff.mpr hz), hx', hy', PublicKey.ofCoordinates?_self,
      Option.some.injEq, ← hl, PublicKey.point_injective.eq_iff, eq_comm]

end Jacobian

end SeedWallet
