import Mathlib.Data.List.Prime
import Mathlib.FieldTheory.Finite.Basic
import Mathlib.NumberTheory.LucasPrimality
import Mathlib.Tactic.NormNum.Prime
import Mathlib.Tactic.Ring
import SeedWallet.Curve.SecretKey

/-!
# The moduli are primes

Coordinates are reduced by one prime and scalars by another. Both are proved prime by Lucas' test,
which asks for the prime factors of the number before and for a number whose powers have the full
period. The powers are those that the arithmetic itself computes, so the test needs no other
exponentiation than the one it vouches for.

- `Bits.foldl_of_step`: what holds along the digits of a numeral.
- `Modular.pow_eq`: repeated squaring computes powers.
- `Modular.Certificate`: a number with what Lucas' test needs; `Modular.Certificate.prime` is the test.
- `prime_fieldPrime`, `prime_curveOrder`: both moduli.
- `Modular.finEquiv_inverse`: modulo a prime, the power taken for the inverse is the inverse.
-/

namespace SeedWallet

/-- What a numeral is read into stands for the digits read so far, if that holds at the start and every
digit keeps it. -/
theorem Bits.foldl_of_step {β : Type} (step : β → Bool → β) (Stands : β → ℕ → Prop)
    (hstep : ∀ r k b, Stands r k → Stands (step r b) (2 * k + b.toNat)) {r : β} {k : ℕ}
    (hr : Stands r k) (bs : List Bool) :
    Stands (bs.foldl step r) (k * 2 ^ bs.length + toNat bs) := by
  induction bs generalizing r k with
  | nil => simpa using hr
  | cons b bs ih =>
    have hnext := ih (hstep r k b hr)
    have hvalue : k * 2 ^ (b :: bs).length + toNat (b :: bs) =
        (2 * k + b.toNat) * 2 ^ bs.length + toNat bs := by
      rw [toNat_cons, List.length_cons]
      ring
    rw [hvalue]
    exact hnext

namespace Modular

open scoped Fin.CommRing

section

variable {n : ℕ} [NeZero n]

/-- Repeated squaring computes powers. -/
theorem pow_eq (a : Fin n) {e : ℕ} (he : e < 2 ^ 256) : pow a e = a ^ e := by
  have hdigits := Bits.foldl_of_step (fun r bit => if bit then r * r * a else r * r)
    (fun r k => r = a ^ k) ?_ (pow_zero a).symm (Bits.ofNat 256 e)
  · rw [Bits.toNat_ofNat, Nat.mod_eq_of_lt he, Nat.zero_mul, Nat.zero_add] at hdigits
    exact hdigits
  · rintro r k b rfl
    cases b with
    | false =>
      rw [if_neg Bool.false_ne_true, Bool.toNat_false, add_zero, two_mul, pow_add]
    | true =>
      rw [if_pos rfl, Bool.toNat_true, pow_succ, two_mul, pow_add]

/-- The same in the ring of residues. -/
theorem finEquiv_pow (a : Fin n) {e : ℕ} (he : e < 2 ^ 256) :
    ZMod.finEquiv n (pow a e) = ZMod.finEquiv n a ^ e := by
  rw [pow_eq a he, map_pow]

/-- Modulo an odd prime the power taken for the inverse is the inverse. -/
theorem finEquiv_inverse [Fact n.Prime] (hodd : 2 < n) (hn : n ≤ 2 ^ 256) (a : Fin n) :
    ZMod.finEquiv n (inverse a) = (ZMod.finEquiv n a)⁻¹ := by
  rw [inverse, finEquiv_pow a (by omega)]
  by_cases ha : ZMod.finEquiv n a = 0
  · rw [ha, inv_zero, zero_pow (by omega)]
  · have hfermat : ZMod.finEquiv n a ^ (n - 2) * ZMod.finEquiv n a = 1 := by
      rw [← pow_succ, ← ZMod.pow_card_sub_one_eq_one ha]
      congr 1
      omega
    exact eq_inv_of_mul_eq_one_left hfermat

end

/-! ## Lucas' test -/

/-- A number, a base and the prime factors of the number before, as often as they divide it. -/
structure Certificate where
  number : ℕ
  base : ℕ
  factors : List ℕ

namespace Certificate

/-- The powers of the base modulo the number. -/
def power (c : Certificate) (e : ℕ) : Fin (c.number - 1 + 1) :=
  pow (.ofNat _ c.base) e

/-- The factors are those of the number before, and only the full power of the base is one. -/
def Passes (c : Certificate) : Prop :=
  (0 < c.number ∧ c.number ≤ 2 ^ 256 ∧ c.factors.prod = c.number - 1) ∧
    c.power (c.number - 1) = 1 ∧ ∀ q ∈ c.factors, c.power ((c.number - 1) / q) ≠ 1

instance (c : Certificate) : Decidable c.Passes :=
  inferInstanceAs (Decidable (_ ∧ _))

/-- A number that passes with factors that are primes is a prime. -/
theorem prime {c : Certificate} (h : c.Passes) (hfactors : ∀ q ∈ c.factors, q.Prime) :
    c.number.Prime := by
  obtain ⟨⟨hpos, hle, hprod⟩, hfull, hpart⟩ := h
  have hpower : ∀ e ≤ c.number - 1, ZMod.finEquiv _ (c.power e) =
      ZMod.finEquiv _ (Fin.ofNat (c.number - 1 + 1) c.base) ^ e := by
    intro e he
    exact finEquiv_pow _ (by omega)
  have hnumber : c.number - 1 + 1 = c.number := by omega
  rw [← hnumber]
  apply lucas_primality _ (ZMod.finEquiv _ (Fin.ofNat (c.number - 1 + 1) c.base))
  · rw [Nat.add_sub_cancel, ← hpower _ le_rfl, hfull, map_one]
  · intro q hq hdvd hone
    rw [Nat.add_sub_cancel, ← hprod] at hdvd
    -- a prime that divides a product of primes is one of them
    obtain ⟨r, hr, hqr⟩ := (Prime.dvd_prod_iff hq.prime).mp hdvd
    obtain rfl : q = r := (Nat.prime_dvd_prime_iff_eq hq (hfactors r hr)).mp hqr
    rw [Nat.add_sub_cancel, ← hpower _ (Nat.div_le_self _ _)] at hone
    apply hpart q hr
    apply (ZMod.finEquiv _).injective
    rw [hone, map_one]

/-- Each number passes, with factors among some known primes and the numbers before it. -/
def Chain (known : List ℕ) : List Certificate → Prop
  | [] => True
  | c :: cs => c.Passes ∧ (∀ q ∈ c.factors, q ∈ known) ∧ Chain (c.number :: known) cs

instance decidableChain : ∀ known cs, Decidable (Chain known cs)
  | _, [] => inferInstanceAs (Decidable True)
  | known, c :: cs =>
    have := decidableChain (c.number :: known) cs
    inferInstanceAs (Decidable (c.Passes ∧ (∀ q ∈ c.factors, q ∈ known) ∧ _))

/-- The numbers of a chain are primes. -/
theorem prime_of_chain {known : List ℕ} {cs : List Certificate} (h : Chain known cs)
    (hknown : ∀ q ∈ known, q.Prime) : ∀ p ∈ cs.map number, p.Prime := by
  induction cs generalizing known with
  | nil => simp
  | cons c cs ih =>
    obtain ⟨hpasses, hfactors, hrest⟩ := h
    have hc : c.number.Prime := prime hpasses fun q hq => hknown q (hfactors q hq)
    rw [List.map_cons, List.forall_mem_cons]
    exact ⟨hc, ih hrest (List.forall_mem_cons.mpr ⟨hc, hknown⟩)⟩

end Certificate

/-! ## The two moduli -/

/-- Primes that trial division finds. -/
def smallPrimes : List ℕ :=
  [2, 3, 5, 7, 11, 17, 29, 31, 41, 59, 109, 149, 293, 461, 631, 1627, 2621, 2657, 4051, 4423, 5323,
    7723, 13441, 16699, 24809, 28181, 41201, 85831, 96557, 120233, 305873, 1627771, 4681609, 7240687,
    13331831, 44706919, 107590001]

theorem prime_of_mem_smallPrimes : ∀ q ∈ smallPrimes, q.Prime := by
  simp only [smallPrimes, List.forall_mem_cons]
  norm_num

/-- Primes that lead to the two moduli, each with the factors of the number before it. -/
def certificates : List Certificate :=
  [⟨545358713, 5, [2, 2, 2, 41, 59, 28181]⟩,
    ⟨297159362677, 2, [2, 2, 3, 3, 11, 461, 1627771]⟩,
    ⟨107361793816595537, 3, [2, 2, 2, 2, 16699, 85831, 4681609]⟩,
    ⟨173378833005251801, 6, [2, 2, 2, 5, 5, 2621, 24809, 13331831]⟩,
    ⟨174723607534414371449, 3, [2, 2, 2, 17, 59, 4051, 120233, 44706919]⟩,
    ⟨22149492674086928081353, 5, [2, 2, 2, 3, 5323, 173378833005251801]⟩,
    ⟨132896956044521568488119, 6, [2, 3, 22149492674086928081353]⟩,
    ⟨29047611873442575647497758179, 2, [2, 293, 305873, 545358713, 297159362677]⟩,
    ⟨341948486974166000522343609283189, 2,
      [2, 2, 3, 3, 3, 109, 29047611873442575647497758179]⟩,
    ⟨255515944373312847190720520512484175977, 3,
      [2, 2, 2, 7, 7, 11, 1627, 2657, 4423, 41201, 96557, 7240687, 107590001]⟩,
    ⟨205115282021455665897114700593932402728804164701536103180137503955397371, 10,
      [2, 3, 5, 29, 29, 31, 7723, 132896956044521568488119,
        255515944373312847190720520512484175977]⟩,
    ⟨fieldPrime, 3,
      [2, 3, 7, 13441, 205115282021455665897114700593932402728804164701536103180137503955397371]⟩,
    ⟨curveOrder, 7,
      [2, 2, 2, 2, 2, 2, 3, 149, 631, 107361793816595537, 174723607534414371449,
        341948486974166000522343609283189]⟩]

theorem chain_certificates : Certificate.Chain smallPrimes certificates := by
  decide +kernel

theorem prime_of_mem_certificates : ∀ p ∈ certificates.map Certificate.number, p.Prime :=
  Certificate.prime_of_chain chain_certificates prime_of_mem_smallPrimes

end Modular

/-- Coordinates are reduced by a prime. -/
theorem prime_fieldPrime : fieldPrime.Prime :=
  Modular.prime_of_mem_certificates fieldPrime (by decide +kernel)

/-- Scalars are reduced by a prime. -/
theorem prime_curveOrder : curveOrder.Prime :=
  Modular.prime_of_mem_certificates curveOrder (by decide +kernel)

instance : Fact fieldPrime.Prime := ⟨prime_fieldPrime⟩

instance : Fact curveOrder.Prime := ⟨prime_curveOrder⟩

end SeedWallet
