import SeedWallet.Address.Base58
import SeedWallet.Proofs.LetterCase

/-!
# Reading a text over an alphabet

Both families of addresses are read character by character. A reader that undoes a writer on single
characters, possibly after normalising them, undoes it on whole texts.

- `mapM_eq_some_iff`: from one character to a text.
- `Base58.mapM_value?_eq_some_iff`: the digits of base 58 are read one way only.
- `Symbol.mapM_ofChar?_eq_some_iff`: the symbols of base 32 are read in either letter case.
-/

namespace SeedWallet

/-- If `read` accepts exactly what `write` writes for valid values, up to normalisation, then it does
so along a whole list. -/
theorem mapM_eq_some_iff {α β γ : Type} {read : α → Option β} {normal : α → γ} {write : β → γ}
    {Valid : β → Prop} (h : ∀ x y, read x = some y ↔ Valid y ∧ normal x = write y)
    (xs : List α) (ys : List β) :
    xs.mapM read = some ys ↔ (∀ y ∈ ys, Valid y) ∧ xs.map normal = ys.map write := by
  induction xs generalizing ys with
  | nil => cases ys <;> simp
  | cons x xs ih =>
    rw [List.mapM_cons]
    constructor
    · -- reading succeeds on the first value and on the others
      intro hread
      obtain ⟨y, hy, hrest⟩ := Option.bind_eq_some_iff.mp hread
      obtain ⟨zs, hzs, hyzs⟩ := Option.bind_eq_some_iff.mp hrest
      obtain rfl : y :: zs = ys := Option.some.inj hyzs
      obtain ⟨hvalid, hnormal⟩ := (h x y).mp hy
      obtain ⟨hvalids, hnormals⟩ := (ih zs).mp hzs
      refine ⟨fun z hz => ?_, by rw [List.map_cons, List.map_cons, hnormal, hnormals]⟩
      rcases List.mem_cons.mp hz with rfl | hz
      · exact hvalid
      · exact hvalids z hz
    · rintro ⟨hvalids, hnormals⟩
      cases ys with
      | nil => cases hnormals
      | cons y ys =>
        rw [List.map_cons, List.map_cons, List.cons.injEq] at hnormals
        have hy : read x = some y := (h x y).mpr ⟨hvalids y (by simp), hnormals.1⟩
        have hys : xs.mapM read = some ys :=
          (ih ys).mpr ⟨fun z hz => hvalids z (by simp [hz]), hnormals.2⟩
        rw [hy, hys]
        rfl

/-- The position at which a value was found holds it. -/
theorem getElem_of_idxOf? {α : Type} [BEq α] [LawfulBEq α] {xs : List α} {x : α} {i : Nat}
    (h : xs.idxOf? x = some i) : ∃ hi : i < xs.length, xs[i] = x := by
  rw [List.idxOf?, List.findIdx?_eq_some_iff_getElem] at h
  obtain ⟨hi, hx, -⟩ := h
  exact ⟨hi, eq_of_beq hx⟩

/-! ## Base 58 -/

namespace Base58

/-- A character has a value only if it is the digit of that value. -/
theorem value?_eq_some_iff (c : Char) (n : Nat) : value? c = some n ↔ n < 58 ∧ c = digit n := by
  constructor
  · intro h
    obtain ⟨hlt, hget⟩ := getElem_of_idxOf? h
    refine ⟨hlt, ?_⟩
    rw [digit, List.getD_eq_getElem _ _ hlt, hget]
  · rintro ⟨hlt, rfl⟩
    exact value?_digit hlt

/-- A text is read as digits exactly if it is written with them. -/
theorem mapM_value?_eq_some_iff (cs : List Char) (ds : List Nat) :
    cs.mapM value? = some ds ↔ (∀ d ∈ ds, d < 58) ∧ cs = ds.map digit := by
  have hread : ∀ c n, value? c = some n ↔ n < 58 ∧ id c = digit n := value?_eq_some_iff
  rw [mapM_eq_some_iff hread, List.map_id]

end Base58

/-! ## Base 32 -/

namespace Symbol

@[simp] theorem toLower_char (s : Symbol) : s.char.toLower = s.char := by
  have all : ∀ t : Symbol, t.char.toLower = t.char := by decide
  exact all s

/-- Symbols have different characters. -/
theorem char_injective : Function.Injective char := by
  intro s t h
  apply Option.some.inj
  rw [← ofChar?_char s, ← ofChar?_char t, h]

/-- The separator is no symbol. -/
theorem char_ne_separator (s : Symbol) : s.char ≠ '1' := by
  have all : ∀ t : Symbol, t.char ≠ '1' := by decide
  exact all s

theorem toNat_char_lt (s : Symbol) : s.char.toNat < 0x80 := by
  have all : ∀ t : Symbol, t.char.toNat < 0x80 := by decide
  exact all s

/-- A character is read as a symbol exactly if it is the symbol's character in either case. -/
theorem ofChar?_eq_some_iff (c : Char) (s : Symbol) :
    ofChar? c = some s ↔ c.toLower = s.char := by
  constructor
  · intro h
    obtain ⟨n, hn, rfl⟩ := Option.map_eq_some_iff.mp h
    obtain ⟨hlt, hget⟩ := getElem_of_idxOf? hn
    have hsmall : n < 2 ^ 5 := hlt
    rw [char, BitVec.toNat_ofNat, Nat.mod_eq_of_lt hsmall, List.getD_eq_getElem _ _ hlt, hget]
  · intro h
    -- the reader sees the small letter only
    have hself : ofChar? c = ofChar? c.toLower := by
      rw [ofChar?, ofChar?, Char.toLower_toLower_eq_toLower]
    rw [hself, h, ofChar?_char]

/-- A text is read as symbols exactly if it is written with them in some mixture of cases. -/
theorem mapM_ofChar?_eq_some_iff (cs : List Char) (ss : List Symbol) :
    cs.mapM ofChar? = some ss ↔ cs.map Char.toLower = ss.map char := by
  have hread : ∀ c s, ofChar? c = some s ↔ True ∧ c.toLower = s.char := fun c s => by
    rw [true_and, ofChar?_eq_some_iff]
  rw [mapM_eq_some_iff hread]
  simp

end Symbol

end SeedWallet
