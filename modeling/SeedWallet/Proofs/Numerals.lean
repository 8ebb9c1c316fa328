import Mathlib.Data.Nat.Digits.Lemmas
import SeedWallet.Text.Decimal

/-!
# Decimal numerals

A numeral is at least one digit, with or without a plus sign in front, and zeros may lead. The reader
accepts exactly the numerals of numbers below its limit, and numbers are written as numerals without sign
and without leading zeros.

- `Decimal.Spells cs n`: the characters are a numeral of `n`.
- `Decimal.readBelow_eq_ok_iff`: what is read as a number.
- `Decimal.spells_digits`: the digits of a number are a numeral of it.
- `Decimal.head?_digits_ne_zero`: they have no leading zero.
- `Decimal.padded`, `Decimal.spells_iff_padded`: the numerals of a number, one for each padding.
-/

namespace SeedWallet.Decimal

/-- Whether the characters are a numeral of the number. -/
def Spells (cs : List Char) (n : Nat) : Prop :=
  ∃ ds, (cs = ds ∨ cs = '+' :: ds) ∧ ds ≠ [] ∧ (∀ d ∈ ds, d.isDigit = true) ∧
    Nat.ofDigitChars 10 ds 0 = n

/-! ## Digits -/

theorem ne_of_isDigit {c d : Char} (h : c.isDigit = true) (hd : d.isDigit = false) : c ≠ d := by
  rintro rfl
  rw [h] at hd
  cases hd

theorem isDigit_of_mem_digits {n : Nat} {c : Char} (h : c ∈ digits n) : c.isDigit = true :=
  Nat.isDigit_of_mem_toDigits (by decide) (by decide) h

/-- A number has a first digit. -/
theorem exists_digits_eq_cons (n : Nat) : ∃ c cs, digits n = c :: cs ∧ c.isDigit = true := by
  obtain ⟨c, cs, hcs⟩ := List.exists_cons_of_ne_nil (Nat.toDigits_ne_nil (n := n) (b := 10))
  exact ⟨c, cs, hcs, isDigit_of_mem_digits (n := n) (by rw [digits, hcs]; simp)⟩

/-- The digits of a number are its value. -/
theorem ofDigitChars_digits (n : Nat) : Nat.ofDigitChars 10 (digits n) 0 = n :=
  Nat.ofDigitChars_toDigits (by decide) (by decide)

/-- The digits of a number other than zero have no leading zero. -/
theorem head?_digits_ne_zero {n : Nat} (h : n ≠ 0) : (digits n).head? ≠ some '0' := by
  induction n using Nat.strongRecOn with
  | ind n ih =>
    by_cases hsmall : n < 10
    · rw [digits, Nat.toDigits_of_lt_base hsmall]
      simpa using h
    · -- the first digit is that of the number without its last digit
      rw [digits, Nat.toDigits_of_base_le (by decide) (Nat.le_of_not_lt hsmall),
        List.head?_append_of_ne_nil _ Nat.toDigits_ne_nil]
      exact ih (n / 10) (by omega) (by omega)

/-- The digits of a number are a numeral of it. -/
theorem spells_digits (n : Nat) : Spells (digits n) n :=
  ⟨digits n, .inl rfl, Nat.toDigits_ne_nil, fun _ => isDigit_of_mem_digits, ofDigitChars_digits n⟩

/-! ## Reading -/

theorem ofDigitChars_cons (n : Nat) (c : Char) (cs : List Char) :
    Nat.ofDigitChars 10 (c :: cs) n = Nat.ofDigitChars 10 cs (10 * n + value c) :=
  Nat.ofDigitChars_cons

/-- Digits that follow make a number no smaller. -/
theorem le_ofDigitChars (cs : List Char) (n : Nat) : n ≤ Nat.ofDigitChars 10 cs n := by
  induction cs generalizing n with
  | nil => exact le_refl n
  | cons c cs ih =>
    rw [ofDigitChars_cons]
    have := ih (10 * n + value c)
    omega

/-- Digits are taken in as the number that they spell, if that stays below the limit. -/
theorem scan_eq_ok_iff (limit n m : Nat) (cs : List Char) :
    scan limit n cs = .ok m ↔
      (∀ c ∈ cs, c.isDigit = true) ∧ Nat.ofDigitChars 10 cs n = m ∧ (cs ≠ [] → m < limit) := by
  induction cs generalizing n with
  | nil => simp [scan, Nat.ofDigitChars]
  | cons c cs ih =>
    rw [ofDigitChars_cons, List.forall_mem_cons, scan]
    by_cases hdigit : c.isDigit = true
    · rw [if_pos hdigit]
      by_cases hlimit : 10 * n + value c < limit
      · rw [if_pos hlimit, ih]
        constructor
        · rintro ⟨hdigits, rfl, hlt⟩
          refine ⟨⟨hdigit, hdigits⟩, rfl, fun _ => ?_⟩
          by_cases hnil : cs = []
          · subst hnil
            exact hlimit
          · exact hlt hnil
        · rintro ⟨⟨-, hdigits⟩, hvalue, hlt⟩
          exact ⟨hdigits, hvalue, fun _ => hlt (List.cons_ne_nil _ _)⟩
      · -- a number that is past the limit stays past it
        rw [if_neg hlimit]
        have hle := le_ofDigitChars cs (10 * n + value c)
        constructor
        · intro h
          cases h
        · rintro ⟨-, rfl, hlt⟩
          exact absurd (hlt (List.cons_ne_nil _ _)) (by omega)
    · rw [if_neg hdigit]
      constructor
      · intro h
        cases h
      · rintro ⟨⟨h, -⟩, -⟩
        exact absurd h hdigit

/-- Behind a plus sign there are digits. -/
theorem readBelow_plus {ds : List Char} (h : ds ≠ []) (limit : Nat) :
    readBelow limit ('+' :: ds) = scan limit 0 ds := by
  cases ds with
  | nil => exact absurd rfl h
  | cons d ds => rfl

/-- Without a sign in front all characters are digits. -/
theorem readBelow_cons {c : Char} (h : c ≠ '+') (limit : Nat) (cs : List Char) :
    readBelow limit (c :: cs) = scan limit 0 (c :: cs) := by
  unfold readBelow
  split
  · rename_i heq
    cases heq
  · rename_i heq
    cases heq
    exact absurd rfl h
  · rename_i heq
    cases heq
    exact absurd rfl h
  · rfl

/-- **Exactly the numerals of numbers below the limit are read**, each as its number. -/
theorem readBelow_eq_ok_iff (limit n : Nat) (cs : List Char) :
    readBelow limit cs = .ok n ↔ Spells cs n ∧ n < limit := by
  constructor
  · intro h
    -- without their sign the characters are taken in one by one
    obtain ⟨ds, hds, hne, hscan⟩ : ∃ ds, (cs = ds ∨ cs = '+' :: ds) ∧ ds ≠ [] ∧
        scan limit 0 ds = .ok n := by
      unfold readBelow at h
      split at h
      · cases h
      · cases h
      · rename_i hne
        exact ⟨_, .inr rfl, fun hnil => hne (by rw [hnil]), h⟩
      · rename_i hne _ _
        exact ⟨_, .inl rfl, hne, h⟩
    obtain ⟨hdigits, hvalue, hlt⟩ := (scan_eq_ok_iff limit 0 n ds).mp hscan
    exact ⟨⟨ds, hds, hne, hdigits, hvalue⟩, hlt hne⟩
  · rintro ⟨⟨ds, hds, hne, hdigits, hvalue⟩, hlt⟩
    have hscan := (scan_eq_ok_iff limit 0 n ds).mpr ⟨hdigits, hvalue, fun _ => hlt⟩
    rcases hds with rfl | rfl
    · obtain ⟨d, ds, rfl⟩ := List.exists_cons_of_ne_nil hne
      rw [readBelow_cons (ne_of_isDigit (hdigits d (List.mem_cons_self ..)) (by decide)), hscan]
    · rw [readBelow_plus hne, hscan]

/-! ## Padding -/

/-- What may stand in front of the digits of a number: a plus sign, then zeros. -/
structure Padding where
  plus : Bool
  zeros : Nat
  deriving DecidableEq

/-- Nothing in front. -/
def Padding.none : Padding := ⟨false, 0⟩

/-- The digits of a number behind a padding. -/
def padded (pad : Padding) (n : Nat) : List Char :=
  (if pad.plus then ['+'] else []) ++ (List.replicate pad.zeros '0' ++ digits n)

/-- A digit is what the number that it stands for is written with. -/
theorem digits_value {c : Char} (h : c.isDigit = true) :
    value c < 10 ∧ digits (value c) = [c] := by
  have hrange : 48 ≤ c.toNat ∧ c.toNat ≤ 57 := Char.isDigit_iff_toNat.mp h
  have hvalue : value c = c.toNat - 48 := rfl
  have hsmall : value c < 10 := by omega
  refine ⟨hsmall, ?_⟩
  rw [digits, Nat.toDigits_of_lt_base hsmall, List.cons.injEq]
  refine ⟨Char.toNat_inj.mp ?_, rfl⟩
  rw [Nat.toNat_digitChar_of_lt_ten hsmall]
  omega

/-- Digits that follow those of a number other than zero go on with them. -/
theorem digits_append {n : Nat} (h : 0 < n) {cs : List Char} (hcs : ∀ c ∈ cs, c.isDigit = true) :
    digits n ++ cs = digits (Nat.ofDigitChars 10 cs n) := by
  induction cs generalizing n with
  | nil => exact List.append_nil _
  | cons c cs ih =>
    rw [List.forall_mem_cons] at hcs
    obtain ⟨hsmall, hdigit⟩ := digits_value hcs.1
    have hlast : digits n ++ [c] = digits (10 * n + value c) := by
      rw [← hdigit]
      exact Nat.toDigits_append_toDigits (by decide) h hsmall
    rw [List.append_cons, hlast, ofDigitChars_cons]
    exact ih (by omega) hcs.2

/-- Behind leading zeros stand the digits of the number that is spelled. -/
theorem exists_zeros {ds : List Char} (hne : ds ≠ []) (hds : ∀ d ∈ ds, d.isDigit = true) :
    ∃ k, ds = List.replicate k '0' ++ digits (Nat.ofDigitChars 10 ds 0) := by
  induction ds with
  | nil => exact absurd rfl hne
  | cons d ds ih =>
    rw [List.forall_mem_cons] at hds
    obtain ⟨-, hdigit⟩ := digits_value hds.1
    rw [ofDigitChars_cons, Nat.mul_zero, Nat.zero_add]
    by_cases hzero : value d = 0
    · have hd : d = '0' := by
        rw [hzero] at hdigit
        exact (List.cons.inj hdigit).1.symm
      by_cases hnil : ds = []
      · exact ⟨0, by rw [hnil, hd]; rfl⟩
      · obtain ⟨k, hk⟩ := ih hnil hds.2
        refine ⟨k + 1, ?_⟩
        rw [hzero, List.replicate_succ, List.cons_append, ← hk, hd]
    · -- the number begins with this digit, and the others follow
      refine ⟨0, ?_⟩
      rw [← digits_append (Nat.pos_of_ne_zero hzero) hds.2, hdigit]
      rfl

/-- The numerals of a number are its digits behind any padding. -/
theorem spells_iff_padded (cs : List Char) (n : Nat) :
    Spells cs n ↔ ∃ pad, cs = padded pad n := by
  constructor
  · rintro ⟨ds, hcs, hne, hds, rfl⟩
    obtain ⟨k, hk⟩ := exists_zeros hne hds
    rcases hcs with rfl | rfl
    · exact ⟨⟨false, k⟩, hk⟩
    · exact ⟨⟨true, k⟩, congrArg ('+' :: ·) hk⟩
  · rintro ⟨⟨plus, zeros⟩, rfl⟩
    refine ⟨List.replicate zeros '0' ++ digits n, ?_, ?_, ?_, ?_⟩
    · cases plus with
      | false => exact .inl rfl
      | true => exact .inr rfl
    · exact List.append_ne_nil_of_right_ne_nil _ Nat.toDigits_ne_nil
    · intro d hd
      rcases List.mem_append.mp hd with hd | hd
      · rw [List.eq_of_mem_replicate hd]
        rfl
      · exact isDigit_of_mem_digits hd
    · rw [Nat.ofDigitChars_append, Nat.ofDigitChars_replicate_zero, Nat.mul_zero,
        ofDigitChars_digits]

theorem plus_mem_padded_iff (pad : Padding) (n : Nat) : '+' ∈ padded pad n ↔ pad.plus = true := by
  have hrest : '+' ∉ List.replicate pad.zeros '0' ++ digits n := by
    intro hmem
    rcases List.mem_append.mp hmem with hmem | hmem
    · cases List.eq_of_mem_replicate hmem
    · cases isDigit_of_mem_digits hmem
  rw [padded, List.mem_append, or_iff_left hrest]
  cases pad.plus <;> simp

/-- The padding of a numeral shows. -/
theorem padded_inj {pad pad' : Padding} {n : Nat} : padded pad n = padded pad' n ↔ pad = pad' := by
  refine ⟨fun h => ?_, fun h => by rw [h]⟩
  obtain ⟨plus, zeros⟩ := pad
  obtain ⟨plus', zeros'⟩ := pad'
  have hplus : plus = plus' := by
    rw [Bool.eq_iff_iff, ← plus_mem_padded_iff ⟨plus, zeros⟩ n, h, plus_mem_padded_iff]
  subst hplus
  -- without the sign there are as many characters more than digits as there are zeros
  rw [padded, padded, List.append_cancel_left_eq, List.append_cancel_right_eq] at h
  have hlength := congrArg List.length h
  rw [List.length_replicate, List.length_replicate] at hlength
  exact congrArg (Padding.mk plus) hlength

end SeedWallet.Decimal
