import SeedWallet.Arithmetic
import SeedWallet.Groups

/-!
# Binary numerals of a fixed width

A numeral is a list of binary digits, the most significant first. Reading bytes eight, five or
eleven digits at a time is then cutting one such list at other places, and nothing but the cutting
has to be inverted.

- `Bits.ofNat w n`: the `w` lowest digits of `n`.
- `Bits.toNat bs`: the number a numeral stands for.
-/

namespace SeedWallet.Bits

/-- The `w` lowest binary digits of `n`, the most significant first. -/
def ofNat : Nat → Nat → List Bool
  | 0, _ => []
  | w + 1, n => n.testBit w :: ofNat w n

/-- The number that the numeral stands for. -/
def toNat (bs : List Bool) : Nat :=
  bs.foldl (fun n b => 2 * n + b.toNat) 0

@[simp] theorem length_ofNat (w n : Nat) : (ofNat w n).length = w := by
  induction w with
  | zero => rfl
  | succ w ih => simp [ofNat, ih]

/-- Digits already read weigh in above those that follow. -/
theorem foldl_eq (bs : List Bool) (n : Nat) :
    bs.foldl (fun n b => 2 * n + b.toNat) n = n * 2 ^ bs.length + toNat bs := by
  induction bs generalizing n with
  | nil => simp [toNat]
  | cons b bs ih =>
    simp only [toNat, List.foldl_cons, List.length_cons] at ih ⊢
    rw [ih, ih (2 * 0 + b.toNat), Nat.pow_succ]
    grind

@[simp] theorem toNat_nil : toNat [] = 0 := rfl

theorem toNat_cons (b : Bool) (bs : List Bool) :
    toNat (b :: bs) = b.toNat * 2 ^ bs.length + toNat bs := by
  rw [toNat, List.foldl_cons, foldl_eq]; simp

/-- A numeral of `w` digits stands for a number below `2 ^ w`. -/
theorem toNat_lt (bs : List Bool) : toNat bs < 2 ^ bs.length := by
  induction bs with
  | nil => simp
  | cons b bs ih =>
    rw [toNat_cons, List.length_cons, Nat.pow_succ]
    cases b <;> simp <;> omega

/-- Reading the `w` lowest digits of `n` gives `n` modulo `2 ^ w`. -/
theorem toNat_ofNat (w n : Nat) : toNat (ofNat w n) = n % 2 ^ w := by
  induction w with
  | zero => simp [ofNat, Nat.mod_one]
  | succ w ih =>
    rw [ofNat, toNat_cons, length_ofNat, ih, Nat.mod_pow_succ, Nat.testBit_eq_decide_div_mod_eq]
    rcases Nat.mod_two_eq_zero_or_one (n / 2 ^ w) with h | h <;> simp [h, Nat.add_comm]

/-- Writing the number of a numeral at its own width gives the numeral back. -/
theorem ofNat_toNat (bs : List Bool) : ofNat bs.length (toNat bs) = bs := by
  suffices h : ∀ (w n m : Nat), n % 2 ^ w = m % 2 ^ w → ofNat w n = ofNat w m by
    induction bs with
    | nil => rfl
    | cons b bs ih =>
      have hlt := toNat_lt bs
      rw [List.length_cons, ofNat, toNat_cons]
      congr 1
      · cases b
        · simpa using Nat.testBit_lt_two_pow hlt
        · simp only [Bool.toNat_true, Nat.one_mul]
          rw [Nat.testBit_two_pow_add_eq, Nat.testBit_lt_two_pow hlt]; rfl
      · rw [h bs.length _ (toNat bs) (by simp), ih]
  intro w
  induction w with
  | zero => intros; rfl
  | succ w ih =>
    intro n m hnm
    have key : ∀ k, k % 2 ^ (w + 1) % 2 ^ w = k % 2 ^ w := fun k =>
      Nat.mod_mod_of_dvd k ⟨2, by rw [Nat.pow_succ]⟩
    rw [ofNat, ofNat, ih n m (by rw [← key n, hnm, key m])]
    congr 1
    have hb : ∀ k, k.testBit w = (k % 2 ^ (w + 1)).testBit w := fun k => by
      rw [Nat.testBit_mod_two_pow]; simp
    rw [hb n, hnm, ← hb m]

end SeedWallet.Bits
