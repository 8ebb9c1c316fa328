import Mathlib
import SeedWallet.Address.Segwit

/-!
# Letter case

Only the 26 letters of ASCII change case here, each by 32 places. Everything about the two mappings
follows from where they send a character's number (`toNat_toLower`, `toNat_toUpper`).

- `map_toLower_eq_self`, `map_toUpper_eq_self`: a text without letters of one case is its own image in
  the other.
- `Segwit.isMixedCase_eq_false_iff`: a text that does not mix cases is all lower or all upper case.
- `asciiToLower_asciiToUpper`, `asciiToUpper_asciiToLower`: only the last change of case counts.
-/

namespace SeedWallet

/-! ## One character -/

theorem isUpper_iff (c : Char) : c.isUpper = true ↔ 65 ≤ c.toNat ∧ c.toNat ≤ 90 := by
  rw [Char.isUpper, decide_eq_true_eq, ge_iff_le, UInt32.le_iff_toNat_le, UInt32.le_iff_toNat_le]
  exact Iff.rfl

theorem isLower_iff (c : Char) : c.isLower = true ↔ 97 ≤ c.toNat ∧ c.toNat ≤ 122 := by
  rw [Char.isLower, Bool.and_eq_true, decide_eq_true_eq, decide_eq_true_eq, ge_iff_le,
    UInt32.le_iff_toNat_le, UInt32.le_iff_toNat_le]
  exact Iff.rfl

/-- Capital letters move 32 places up, nothing else moves. -/
theorem toNat_toLower (c : Char) :
    c.toLower.toNat = if c.isUpper then c.toNat + 32 else c.toNat := by
  by_cases h : c.isUpper = true
  · rw [if_pos h]
    have hrange := (isUpper_iff c).mp h
    have hval : c.val ≥ 'A'.val ∧ c.val ≤ 'Z'.val := by simpa [Char.isUpper] using h
    have hup : ('a'.val - 'A'.val).toNat = 32 := by decide
    rw [Char.toLower, dif_pos hval, Char.toNat_mk, UInt32.toNat_add, hup, Char.toNat_val]
    omega
  · rw [if_neg h]
    have hval : ¬ (c.val ≥ 'A'.val ∧ c.val ≤ 'Z'.val) := by simpa [Char.isUpper] using h
    rw [Char.toLower, dif_neg hval]

/-- Small letters move 32 places down, nothing else moves. -/
theorem toNat_toUpper (c : Char) :
    c.toUpper.toNat = if c.isLower then c.toNat - 32 else c.toNat := by
  by_cases h : c.isLower = true
  · rw [if_pos h]
    have hrange := (isLower_iff c).mp h
    have hval : 'a'.val ≤ c.val ∧ c.val ≤ 'z'.val := by simpa [Char.isLower] using h
    -- 32 places down is the whole range less 32 up
    have hdown : ('A'.val - 'a'.val).toNat = 2 ^ 32 - 32 := by decide
    rw [Char.toUpper, dif_pos hval, Char.toNat_mk, UInt32.toNat_add, hdown, Char.toNat_val]
    omega
  · rw [if_neg h]
    have hval : ¬ ('a'.val ≤ c.val ∧ c.val ≤ 'z'.val) := by simpa [Char.isLower] using h
    rw [Char.toUpper, dif_neg hval]

theorem toLower_of_not_isUpper {c : Char} (h : ¬ c.isUpper = true) : c.toLower = c := by
  rw [← Char.toNat_inj, toNat_toLower, if_neg h]

theorem toUpper_of_not_isLower {c : Char} (h : ¬ c.isLower = true) : c.toUpper = c := by
  rw [← Char.toNat_inj, toNat_toUpper, if_neg h]

/-- No capital letter is left. -/
theorem not_isUpper_toLower (c : Char) : ¬ c.toLower.isUpper = true := by
  rw [isUpper_iff, toNat_toLower]
  split
  · have := (isUpper_iff c).mp ‹_›
    omega
  · rename_i h
    rwa [isUpper_iff] at h

/-- No small letter is left. -/
theorem not_isLower_toUpper (c : Char) : ¬ c.toUpper.isLower = true := by
  rw [isLower_iff, toNat_toUpper]
  split
  · have := (isLower_iff c).mp ‹_›
    omega
  · rename_i h
    rwa [isLower_iff] at h

/-- Raising a letter makes its number no greater, so that it does not leave ASCII. -/
theorem toNat_toUpper_le (c : Char) : c.toUpper.toNat ≤ c.toNat := by
  rw [toNat_toUpper]
  split <;> omega

/-- A character below the capital letters is no letter's image. -/
theorem toLower_eq_iff {c d : Char} (h : d.toNat < 65) : c.toLower = d ↔ c = d := by
  rw [← Char.toNat_inj, ← Char.toNat_inj, toNat_toLower]
  split
  · have := (isUpper_iff c).mp ‹_›
    omega
  · rfl

/-! ## Texts -/

theorem map_toLower_eq_self {cs : List Char} (h : cs.any Char.isUpper = false) :
    cs.map Char.toLower = cs := by
  refine (List.map_congr_left fun c hc => ?_).trans (List.map_id cs)
  refine toLower_of_not_isUpper fun hu => ?_
  rw [List.any_eq_false] at h
  exact h c hc hu

theorem map_toUpper_eq_self {cs : List Char} (h : cs.any Char.isLower = false) :
    cs.map Char.toUpper = cs := by
  refine (List.map_congr_left fun c hc => ?_).trans (List.map_id cs)
  refine toUpper_of_not_isLower fun hl => ?_
  rw [List.any_eq_false] at h
  exact h c hc hl

theorem any_isUpper_map_toLower (cs : List Char) :
    (cs.map Char.toLower).any Char.isUpper = false := by
  rw [List.any_map, List.any_eq_false]
  exact fun c _ => not_isUpper_toLower c

theorem any_isLower_map_toUpper (cs : List Char) :
    (cs.map Char.toUpper).any Char.isLower = false := by
  rw [List.any_map, List.any_eq_false]
  exact fun c _ => not_isLower_toUpper c

/-- Cases are not mixed exactly when the whole text is in one of them. -/
theorem Segwit.isMixedCase_eq_false_iff (cs : List Char) :
    isMixedCase cs = false ↔ cs = cs.map Char.toLower ∨ cs = cs.map Char.toUpper := by
  rw [isMixedCase, Bool.and_eq_false_iff]
  constructor
  · rintro (h | h)
    · exact .inl (map_toLower_eq_self h).symm
    · exact .inr (map_toUpper_eq_self h).symm
  · rintro (h | h)
    · rw [h]
      exact .inl (any_isUpper_map_toLower cs)
    · rw [h]
      exact .inr (any_isLower_map_toUpper cs)

@[simp] theorem toList_asciiToLower (s : String) :
    (Text.asciiToLower s).toList = s.toList.map Char.toLower := by
  rw [Text.asciiToLower, String.toList_ofList]

@[simp] theorem toList_asciiToUpper (s : String) :
    (Text.asciiToUpper s).toList = s.toList.map Char.toUpper := by
  rw [Text.asciiToUpper, String.toList_ofList]

@[simp] theorem asciiToLower_asciiToUpper (s : String) :
    Text.asciiToLower (Text.asciiToUpper s) = Text.asciiToLower s := by
  rw [← String.toList_inj]
  simp

@[simp] theorem asciiToUpper_asciiToLower (s : String) :
    Text.asciiToUpper (Text.asciiToLower s) = Text.asciiToUpper s := by
  rw [← String.toList_inj]
  simp

/-- A text in one case is its own lower or upper case. -/
theorem eq_asciiToLower_or_asciiToUpper {s : String} (h : Segwit.isMixedCase s.toList = false) :
    s = Text.asciiToLower s ∨ s = Text.asciiToUpper s := by
  rw [← String.toList_inj, ← String.toList_inj, toList_asciiToLower, toList_asciiToUpper]
  exact (Segwit.isMixedCase_eq_false_iff s.toList).mp h

end SeedWallet
