import SeedWallet.Arithmetic

/-!
# Positional digits

- `Digits.ofNat b n`: the digits of `n` in base `b`, the most significant first and without leading
  zeros, so that zero has none.
- `Digits.toNat b ds`: the number that digits spell.
-/

namespace SeedWallet.Digits

/-- The digits of `n`, the least significant first. The number itself is bound enough for the
recursion, since it shrinks with every digit. -/
def lowFirst (b : Nat) : Nat → Nat → List Nat
  | 0, _ => []
  | bound + 1, n => if n = 0 then [] else n % b :: lowFirst b bound (n / b)

/-- The digits of `n`, the most significant first. -/
def ofNat (b n : Nat) : List Nat :=
  (lowFirst b n n).reverse

/-- The number that the digits spell. -/
def toNat (b : Nat) (ds : List Nat) : Nat :=
  ds.foldl (fun n d => b * n + d) 0

@[simp] theorem ofNat_zero (b : Nat) : ofNat b 0 = [] := rfl

theorem toNat_concat (b : Nat) (ds : List Nat) (d : Nat) :
    toNat b (ds ++ [d]) = b * toNat b ds + d := by
  simp [toNat, List.foldl_append]

/-- A larger bound changes nothing. -/
theorem lowFirst_eq {b : Nat} (hb : 1 < b) {bound n : Nat} (h : n ≤ bound) :
    lowFirst b bound n = lowFirst b n n := by
  suffices ∀ bound n bound', n ≤ bound → n ≤ bound' → lowFirst b bound n = lowFirst b bound' n from
    this bound n n h (Nat.le_refl n)
  intro bound
  induction bound with
  | zero =>
    intro n bound' h _
    obtain rfl : n = 0 := by omega
    cases bound' <;> simp [lowFirst]
  | succ bound ih =>
    intro n bound' h h'
    cases bound' with
    | zero =>
      obtain rfl : n = 0 := by omega
      simp [lowFirst]
    | succ bound' =>
      rw [lowFirst, lowFirst]
      split
      · rfl
      · rename_i hn
        have hlt : n / b < n := Nat.div_lt_self (by omega) hb
        rw [ih (n / b) bound' (by omega) (by omega)]

/-- The last digit is the remainder, and the others are those of the quotient. -/
theorem ofNat_of_pos {b n : Nat} (hb : 1 < b) (hn : 0 < n) :
    ofNat b n = ofNat b (n / b) ++ [n % b] := by
  obtain ⟨k, rfl⟩ : ∃ k, n = k + 1 := ⟨n - 1, by omega⟩
  have hlt : (k + 1) / b < k + 1 := Nat.div_lt_self (by omega) hb
  rw [ofNat, lowFirst, if_neg (by omega), List.reverse_cons, lowFirst_eq hb (by omega), ofNat]

/-- The digits of a number spell it. -/
@[simp] theorem toNat_ofNat {b : Nat} (hb : 1 < b) (n : Nat) : toNat b (ofNat b n) = n := by
  induction n using Nat.strongRecOn with
  | ind n ih =>
    rcases Nat.eq_zero_or_pos n with rfl | hn
    · rfl
    · rw [ofNat_of_pos hb hn, toNat_concat, ih _ (Nat.div_lt_self hn hb), Nat.div_add_mod]

/-- Digits are below the base. -/
theorem lt_of_mem_ofNat {b n d : Nat} (hb : 1 < b) (h : d ∈ ofNat b n) : d < b := by
  induction n using Nat.strongRecOn with
  | ind n ih =>
    rcases Nat.eq_zero_or_pos n with rfl | hn
    · simp at h
    · rw [ofNat_of_pos hb hn, List.mem_append, List.mem_singleton] at h
      rcases h with h | rfl
      · exact ih _ (Nat.div_lt_self hn hb) h
      · exact Nat.mod_lt _ (by omega)

end SeedWallet.Digits
