import SeedWallet.Text.Decomposition.Table

/-!
# Compatibility decomposition of text

- `Text.decompose cs`: normalization form KD: every character is replaced by its full compatibility
  decomposition, and marks that combine with one character are put into the canonical order. Text of
  ASCII characters is left as it is (`decompose_of_ascii`).
-/

namespace SeedWallet.Text

/-- The canonical combining class of a character; zero for one that starts anew. -/
def combiningClass (c : Char) : Nat :=
  let n := c.toNat
  if n < 0x300 then 0
  else
    match Decomposition.combiningRuns.find? fun r => decide (r.1 ≤ n) && decide (n ≤ r.2.1) with
    | some r => r.2.2
    | none => 0

/-- The parts of the Hangul syllable with that number: its lead, its vowel and, if it has one, its
trailing consonant. -/
def hangulParts (n : Nat) : List Char :=
  let lead := Char.ofNat (0x1100 + n / 588)
  let vowel := Char.ofNat (0x1161 + n % 588 / 28)
  if n % 28 = 0 then [lead, vowel] else [lead, vowel, Char.ofNat (0x11a7 + n % 28)]

/-- The full compatibility decomposition of a character. -/
def decomposeChar (c : Char) : List Char :=
  let n := c.toNat
  if n < 0xa0 then [c]
  else if 0xac00 ≤ n ∧ n < 0xac00 + 11172 then hangulParts (n - 0xac00)
  else (Decomposition.table.lookup n).getD [c]

/-- Puts a character in front of ordered ones: a mark moves behind the marks of lower class that
follow it, and past none of its own class. -/
def insertMark (c : Char) : List Char → List Char
  | [] => [c]
  | d :: ds =>
    if 0 < combiningClass d ∧ combiningClass d < combiningClass c then d :: insertMark c ds
    else c :: d :: ds

/-- Puts marks into canonical order. -/
def orderMarks (cs : List Char) : List Char :=
  cs.foldr insertMark []

/-- Normalization form KD. -/
def decompose (cs : List Char) : List Char :=
  orderMarks (cs.flatMap decomposeChar)

theorem decomposeChar_of_ascii {c : Char} (h : c.toNat < 0x80) : decomposeChar c = [c] := by
  have : c.toNat < 0xa0 := by omega
  simp [decomposeChar, this]

theorem insertMark_of_ascii {c : Char} (h : c.toNat < 0x80) (cs : List Char) :
    insertMark c cs = c :: cs := by
  have hc : combiningClass c = 0 := by
    have : c.toNat < 0x300 := by omega
    simp [combiningClass, this]
  cases cs <;> simp [insertMark, hc]

/-- Text of ASCII characters is already decomposed. -/
theorem decompose_of_ascii {cs : List Char} (h : ∀ c ∈ cs, c.toNat < 0x80) : decompose cs = cs := by
  rw [decompose, orderMarks]
  induction cs with
  | nil => rfl
  | cons c cs ih =>
    have hc := h c (by simp)
    rw [List.flatMap_cons, decomposeChar_of_ascii hc, List.singleton_append, List.foldr_cons,
      insertMark_of_ascii hc, ih fun x hx => h x (by simp [hx])]

end SeedWallet.Text
