import SeedWallet.Curve.Signature
import SeedWallet.Proofs.KeyPairs

/-!
# What is signed verifies

A signature is made with a number that nobody knows. Whoever verifies it computes the multiple of the
generator by that number again, or its negative if the lower of two scalars was taken, and both have the
same first coordinate. This needs no more than that scalars act on the multiples of the generator.

Now and then there is no signature for a number, as one of its two scalars is zero, and the generator of
numbers is asked for the next one. Nothing is known of a hash function from which it would follow that a
number comes at last that will do. So this is what signing takes, and all that it takes.

- `PublicKey.verifies_eq_true_iff`: what is verified, in terms of points.
- `SecretKey.signWith?_eq_some_iff`: the signature that a number makes.
- `SecretKey.verifies_of_signWith?`: a signature made with any number verifies.
- `SecretKey.Suits`, `SecretKey.exists_signWith?_iff`: the numbers that make a signature.
- `NonceSource.search?_eq_some_iff`: a search ends with the first value that something is made of.
- `SecretKey.MeetsSuitable`, `SecretKey.exists_sign?_iff`: a message is signed if such a number comes.
- `SecretKey.verifies_of_sign?`: what is signed verifies.
-/

namespace SeedWallet

open PublicKey (generator)
open FieldElement (residue)
open WeierstrassCurve.Affine (Point)
open scoped Fin.CommRing

/-! ## Scalars act on the generator -/

namespace Scalar

theorem add_nsmul_generator (a b : Scalar) :
    (a + b).val • generator.point = a.val • generator.point + b.val • generator.point := by
  rw [Fin.val_add, mod_curveOrder_nsmul, add_nsmul]

theorem mul_nsmul_generator (a b : Scalar) :
    (a * b).val • generator.point = a.val • b.val • generator.point := by
  rw [Fin.val_mul, mod_curveOrder_nsmul, mul_nsmul']

theorem neg_nsmul_generator (a : Scalar) :
    (-a).val • generator.point = -(a.val • generator.point) := by
  rw [eq_neg_iff_add_eq_zero, ← add_nsmul_generator, neg_add_cancel]
  exact zero_nsmul _

/-- The order is a prime, so the power taken for the inverse is the inverse. -/
theorem inverse_mul_cancel {a : Scalar} (ha : a ≠ 0) : Modular.inverse a * a = 1 := by
  apply (ZMod.finEquiv curveOrder).injective
  have hne : ZMod.finEquiv curveOrder a ≠ 0 := by
    rwa [Ne, map_eq_zero_iff _ (ZMod.finEquiv curveOrder).injective]
  rw [map_mul, Modular.finEquiv_inverse (by decide) (by decide), inv_mul_cancel₀ hne, map_one]

theorem eq_zero_of_mul {a b : Scalar} (ha : a ≠ 0) (h : a * b = 0) : b = 0 := by
  calc b = (Modular.inverse a * a) * b := by rw [inverse_mul_cancel ha, one_mul]
    _ = 0 := by rw [mul_assoc, h, mul_zero]

/-- The lower one of a scalar and its negative. -/
def lower (s : Scalar) : Scalar :=
  if s.val ≤ curveOrder / 2 then s else -s

theorem lower_cases (s : Scalar) : s.lower = s ∨ s.lower = -s := by
  rw [lower]
  split
  · exact .inl rfl
  · exact .inr rfl

theorem lower_le (s : Scalar) : s.lower.val ≤ curveOrder / 2 := by
  rw [lower]
  split
  · assumption
  · rename_i hhigh
    have hs : s ≠ 0 := by
      rintro rfl
      exact hhigh (Nat.zero_le _)
    have hval : (-s).val = curveOrder - s.val := by
      rw [Fin.val_neg, if_neg hs]
    omega

theorem lower_ne_zero {s : Scalar} (hs : s ≠ 0) : s.lower ≠ 0 := by
  rcases s.lower_cases with h | h
  · rwa [h]
  · rwa [h, neg_ne_zero]

end Scalar

/-- The multiple of the generator that is computed. -/
theorem toPublicKey?_multiple_generator_eq_some_iff (k : Scalar) (p : PublicKey) :
    ((Jacobian.ofPublicKey generator).multiple k.val).toPublicKey? = some p ↔
      p.point = k.val • generator.point := by
  have hk : k.val < 2 ^ 256 := lt_trans k.isLt (by decide)
  have hstands := Jacobian.multiple_stands (Jacobian.ofPublicKey_stands generator) hk
  exact Jacobian.toPublicKey?_eq_some_iff hstands p

/-! ## Verifying -/

namespace PublicKey

/-- A signature verifies if the first coordinate of a sum of two multiples leaves its first scalar. -/
theorem verifies_eq_true_iff (key : PublicKey) (message : Bytes) (sig : Signature) :
    key.verifies message sig = true ↔
      ∃ p : PublicKey, p.point =
          (messageScalar message * Modular.inverse sig.s).val • generator.point +
            (sig.r * Modular.inverse sig.s).val • key.point ∧
        Scalar.ofNat p.x.val = sig.r := by
  have hlt : ∀ k : Scalar, k.val < 2 ^ 256 := fun k => lt_trans k.isLt (by decide)
  have hstands := Jacobian.add_stands
    (Jacobian.multiple_stands (Jacobian.ofPublicKey_stands generator)
      (hlt (messageScalar message * Modular.inverse sig.s)))
    (Jacobian.multiple_stands (Jacobian.ofPublicKey_stands key)
      (hlt (sig.r * Modular.inverse sig.s)))
  simp only [← Jacobian.toPublicKey?_eq_some_iff hstands]
  rw [verifies]
  cases (((Jacobian.ofPublicKey generator).multiple
      (messageScalar message * Modular.inverse sig.s).val).add
    ((Jacobian.ofPublicKey key).multiple (sig.r * Modular.inverse sig.s).val)).toPublicKey? with
  | none => simp
  | some p => simp

/-- A point and its negative have one first coordinate. -/
theorem exists_point_eq_neg (p : PublicKey) : ∃ q : PublicKey, q.point = -p.point ∧ q.x = p.x := by
  obtain ⟨q, hq⟩ := exists_point_eq (neg_ne_zero.mpr p.point_ne_zero)
  obtain ⟨hx, -⟩ := (point_eq_some_iff q).mp (hq.trans (Point.neg_some p.nonsingular))
  exact ⟨q, hq, residue.injective hx⟩

end PublicKey

/-! ## Signing with a number -/

namespace Signature

/-- The signature of a pair has that pair. -/
theorem ofPair?_eq_some_iff (r s : Scalar) (sig : Signature) :
    ofPair? r s = some sig ↔ sig.r = r ∧ sig.s = s := by
  rw [ofPair?]
  split
  · obtain ⟨r', s', _, _, _⟩ := sig
    simp [eq_comm]
  · rename_i hrange
    constructor
    · intro h
      cases h
    · rintro ⟨rfl, rfl⟩
      exact absurd ⟨sig.r_ne_zero, sig.s_ne_zero, sig.s_low⟩ hrange

end Signature

namespace SecretKey

variable {key : SecretKey} {m k : Scalar} {sig : Signature}

/-- The second scalar of a signature, up to its sign. -/
def secondScalar (key : SecretKey) (m k r : Scalar) : Scalar :=
  Modular.inverse k * (m + r * key.scalar)

theorem signWith?_eq (key : SecretKey) (m k : Scalar) :
    key.signWith? m k = ((Jacobian.ofPublicKey generator).multiple k.val).toPublicKey?.bind fun p =>
      Signature.ofPair? (Scalar.ofNat p.x.val)
        (key.secondScalar m k (Scalar.ofNat p.x.val)).lower :=
  rfl

/-- The signature that a number makes. -/
theorem signWith?_eq_some_iff :
    key.signWith? m k = some sig ↔
      ∃ p : PublicKey, p.point = k.val • generator.point ∧ sig.r = Scalar.ofNat p.x.val ∧
        sig.s = (key.secondScalar m k sig.r).lower := by
  rw [signWith?_eq, Option.bind_eq_some_iff]
  constructor
  · rintro ⟨p, hp, h⟩
    obtain ⟨hr, hs⟩ := (Signature.ofPair?_eq_some_iff _ _ sig).mp h
    exact ⟨p, (toPublicKey?_multiple_generator_eq_some_iff k p).mp hp, hr, by rw [hr]; exact hs⟩
  · rintro ⟨p, hp, hr, hs⟩
    refine ⟨p, (toPublicKey?_multiple_generator_eq_some_iff k p).mpr hp, ?_⟩
    rw [Signature.ofPair?_eq_some_iff, ← hr]
    exact ⟨rfl, hs⟩

/-- What is computed to verify is the number that was signed with, or its negative. -/
theorem combination_cases {r s : Scalar} (hk : k ≠ 0) (hs0 : s ≠ 0)
    (hs : s = (key.secondScalar m k r).lower) :
    m * Modular.inverse s + r * Modular.inverse s * key.scalar = k ∨
      m * Modular.inverse s + r * Modular.inverse s * key.scalar = -k := by
  have hinverse := Scalar.inverse_mul_cancel hk
  have hw := Scalar.inverse_mul_cancel hs0
  generalize Modular.inverse s = w at hw ⊢
  rcases (key.secondScalar m k r).lower_cases with hsign | hsign
  · left
    rw [hsign, secondScalar] at hs
    linear_combination k * hw - k * w * hs - w * (m + r * key.scalar) * hinverse
  · right
    rw [hsign, secondScalar] at hs
    linear_combination -k * hw + k * w * hs - w * (m + r * key.scalar) * hinverse

/-- A signature verifies, whatever number it was made with. -/
theorem verifies_of_signWith? {message : Bytes}
    (h : key.signWith? (messageScalar message) k = some sig) :
    key.publicKey.verifies message sig = true := by
  obtain ⟨p, hp, hr, hs⟩ := signWith?_eq_some_iff.mp h
  have hk : k ≠ 0 := by
    rintro rfl
    exact p.point_ne_zero (hp.trans (zero_nsmul _))
  rw [PublicKey.verifies_eq_true_iff, point_publicKey, ← Scalar.mul_nsmul_generator,
    ← Scalar.add_nsmul_generator]
  rcases combination_cases hk sig.s_ne_zero hs with hsum | hsum
  · rw [hsum]
    exact ⟨p, hp, hr.symm⟩
  · -- the negative of the point has the same first coordinate
    obtain ⟨q, hq, hx⟩ := p.exists_point_eq_neg
    refine ⟨q, ?_, ?_⟩
    · rw [hsum, Scalar.neg_nsmul_generator, ← hp, hq]
    · rw [hx, hr]

/-! ## Numbers that make a signature -/

/-- Both scalars of the number's signature are different from zero. The second one is up to the inverse of
the number. -/
def Suits (key : SecretKey) (m : Scalar) (nonce : SecretKey) : Prop :=
  Scalar.ofNat nonce.publicKey.x.val ≠ 0 ∧
    m + Scalar.ofNat nonce.publicKey.x.val * key.scalar ≠ 0

instance (key : SecretKey) (m : Scalar) (nonce : SecretKey) : Decidable (key.Suits m nonce) :=
  inferInstanceAs (Decidable (_ ∧ _))

/-- The inverse of a number that is not zero is not zero. -/
theorem inverse_ne_zero (nonce : SecretKey) : Modular.inverse nonce.scalar ≠ 0 := by
  intro hinverse
  have hone := Scalar.inverse_mul_cancel nonce.nonzero
  rw [hinverse, zero_mul] at hone
  exact absurd hone (by decide +kernel)

/-- There is a signature for a number exactly if its scalars are different from zero. -/
theorem exists_signWith?_iff {nonce : SecretKey} :
    (∃ sig, key.signWith? m nonce.scalar = some sig) ↔ key.Suits m nonce := by
  have hpoint := (toPublicKey?_multiple_generator_eq_some_iff nonce.scalar nonce.publicKey).mpr
    (point_publicKey nonce)
  rw [signWith?_eq, hpoint, Option.bind_some, Suits]
  generalize Scalar.ofNat nonce.publicKey.x.val = r
  constructor
  · rintro ⟨sig, hsig⟩
    obtain ⟨rfl, hs⟩ := (Signature.ofPair?_eq_some_iff _ _ sig).mp hsig
    refine ⟨sig.r_ne_zero, fun hzero => sig.s_ne_zero ?_⟩
    rw [hs, secondScalar, hzero, mul_zero]
    rfl
  · rintro ⟨hr, hs⟩
    have hsecond : key.secondScalar m nonce.scalar r ≠ 0 := fun hzero =>
      hs (Scalar.eq_zero_of_mul nonce.inverse_ne_zero hzero)
    exact ⟨_, dif_pos ⟨hr, Scalar.lower_ne_zero hsecond, Scalar.lower_le _⟩⟩

end SecretKey

/-! ## The search -/

namespace NonceSource

variable {α : Type} {attempt : Bytes → Option α} {g : NonceSource} {a : α}

/-- The value that the generator yields after `n` others. -/
def candidate (g : NonceSource) : ℕ → Bytes
  | 0 => g.next.value
  | n + 1 => (g.next.stir [0]).candidate n

/-- **A search ends with what is made of the first value that something is made of.** -/
theorem search?_eq_some_iff :
    g.search? attempt = some a ↔
      ∃ n, attempt (g.candidate n) = some a ∧ ∀ i < n, attempt (g.candidate i) = none := by
  constructor
  · -- what holds of the end of a search that goes on holds of the end of the search before
    refine search?.partial_correctness attempt
      (fun g a => ∃ n, attempt (g.candidate n) = some a ∧ ∀ i < n, attempt (g.candidate i) = none)
      (fun search ih g a h => ?_) g a
    cases hfirst : attempt g.next.value with
    | some found =>
      rw [hfirst] at h
      cases h
      exact ⟨0, hfirst, fun i hi => absurd hi (Nat.not_lt_zero i)⟩
    | none =>
      rw [hfirst] at h
      obtain ⟨n, hn, hearlier⟩ := ih _ _ h
      refine ⟨n + 1, hn, fun i hi => ?_⟩
      cases i with
      | zero => exact hfirst
      | succ i => exact hearlier i (Nat.lt_of_succ_lt_succ hi)
  · rintro ⟨n, hn, hearlier⟩
    induction n generalizing g with
    | zero =>
      have hfirst : attempt g.next.value = some a := hn
      rw [search?, hfirst]
    | succ n ih =>
      have hfirst : attempt g.next.value = none := hearlier 0 (Nat.zero_lt_succ n)
      rw [search?, hfirst]
      exact ih hn fun i hi => hearlier (i + 1) (Nat.succ_lt_succ hi)

/-- A search ends if something is made of any of the values. -/
theorem exists_search?_iff :
    (∃ a, g.search? attempt = some a) ↔ ∃ n a, attempt (g.candidate n) = some a := by
  constructor
  · rintro ⟨a, ha⟩
    obtain ⟨n, hn, -⟩ := search?_eq_some_iff.mp ha
    exact ⟨n, a, hn⟩
  · classical
    intro h
    obtain ⟨a, ha⟩ := Nat.find_spec h
    refine ⟨a, search?_eq_some_iff.mpr ⟨Nat.find h, ha, fun i hi => ?_⟩⟩
    rw [Option.eq_none_iff_forall_ne_some]
    exact fun b hb => Nat.find_min h hi ⟨b, hb⟩

end NonceSource

namespace SecretKey

/-- The generator comes to a number that makes a signature of the message. -/
def MeetsSuitable (key : SecretKey) (message : Bytes) : Prop :=
  ∃ n nonce, ofBytes? ((NonceSource.start key.bytes (sha256 message)).candidate n) = some nonce ∧
    key.Suits (messageScalar message) nonce

/-- A message is signed exactly if the generator comes to a number that makes a signature. -/
theorem exists_sign?_iff (key : SecretKey) (message : Bytes) :
    (∃ sig, key.sign? message = some sig) ↔ key.MeetsSuitable message := by
  rw [sign?, NonceSource.exists_search?_iff, MeetsSuitable]
  refine exists_congr fun n => ?_
  simp only [signWithBytes?, Option.bind_eq_some_iff, ← exists_signWith?_iff]
  constructor
  · rintro ⟨sig, nonce, hnonce, hsig⟩
    exact ⟨nonce, hnonce, sig, hsig⟩
  · rintro ⟨nonce, hnonce, sig, hsig⟩
    exact ⟨sig, nonce, hnonce, hsig⟩

/-- What is signed verifies. -/
theorem verifies_of_sign? {key : SecretKey} {message : Bytes} {sig : Signature}
    (h : key.sign? message = some sig) : key.publicKey.verifies message sig = true := by
  obtain ⟨n, hn, -⟩ := NonceSource.search?_eq_some_iff.mp h
  obtain ⟨nonce, -, hsig⟩ := Option.bind_eq_some_iff.mp hn
  exact verifies_of_signWith? hsig

end SecretKey

end SeedWallet
