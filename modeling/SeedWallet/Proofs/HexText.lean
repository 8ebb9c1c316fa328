import SeedWallet.Hex
import SeedWallet.Proofs.LetterCase
import SeedWallet.Proofs.PlainText

/-!
# Bytes in hexadecimal digits

Each byte is two digits, and a digit may be in either letter case: what a text is read as depends on its
lower-case form alone, and this is what is written for the bytes that are read.

- `Hex.value?_eq_some_iff`: which character is which digit.
- `Hex.decode?_eq_ok_iff`: which texts are read as which bytes.
- `Hex.decode?_encode`: the digits of bytes are read as these bytes.
-/

namespace SeedWallet

namespace Hex

theorem toNat_digit_lt {n : Nat} (h : n < 16) : (digit n).toNat < 0x80 := by
  have all : ∀ m : Fin 16, (digit m).toNat < 0x80 := by decide
  exact all ⟨n, h⟩

theorem toNat_lt_of_mem_encodeByte {b : UInt8} {c : Char} (h : c ∈ encodeByte b) :
    c.toNat < 0x80 := by
  have hb := b.toNat_lt
  simp only [encodeByte, List.mem_cons, List.not_mem_nil, or_false] at h
  rcases h with rfl | rfl
  · exact toNat_digit_lt (by omega)
  · exact toNat_digit_lt (by omega)

/-- Digits are characters of ASCII with values below sixteen. -/
theorem lt_of_value? {m n : Nat} (h : value? m = some n) : m < 0x80 ∧ n < 16 := by
  unfold value? at h
  split at h
  · cases h
    omega
  split at h
  · cases h
    omega
  split at h
  · cases h
    omega
  · cases h

/-- A character is read as the digit that it is in lower case. -/
theorem value?_eq_some_iff (c : Char) (n : Nat) :
    value? c.toNat = some n ↔ n < 16 ∧ c.toLower = digit n := by
  have all : ∀ m : Fin 128, ∀ d : Fin 16,
      value? m.val = some d.val ↔ (Char.ofNat m.val).toLower = digit d.val := by
    decide +kernel
  have hone : ∀ hn : n < 16, c.toNat < 128 → (value? c.toNat = some n ↔ c.toLower = digit n) := by
    intro hn hc
    have h := all ⟨c.toNat, hc⟩ ⟨n, hn⟩
    rwa [Char.ofNat_toNat] at h
  constructor
  · intro h
    obtain ⟨hc, hn⟩ := lt_of_value? h
    exact ⟨hn, (hone hn hc).mp h⟩
  · rintro ⟨hn, h⟩
    refine (hone hn ?_).mpr h
    have hdigit := toNat_digit_lt hn
    rw [← h, toNat_toLower] at hdigit
    split at hdigit <;> omega

/-- Two digits are those of the byte that they make. -/
theorem encodeByte_ofNat {x y : Nat} (hx : x < 16) (hy : y < 16) :
    encodeByte (UInt8.ofNat (16 * x + y)) = [digit x, digit y] := by
  have hvalue : (UInt8.ofNat (16 * x + y)).toNat = 16 * x + y := by
    rw [UInt8.toNat_ofNat', Nat.mod_eq_of_lt (by omega)]
  rw [encodeByte, hvalue, show (16 * x + y) / 16 = x by omega, show (16 * x + y) % 16 = y by omega]

/-- The bytes of which one character each is left, in lower case, are read from characters of ASCII. -/
theorem decodePairs_eq_ok_iff {cs : List Char} (h : ∀ c ∈ cs, c.toNat < 0x80) (position : Nat)
    (bs : Bytes) :
    decodePairs position (cs.map fun c => UInt8.ofNat c.toNat) = .ok bs ↔
      cs.map Char.toLower = bs.flatMap encodeByte := by
  have code : ∀ c ∈ cs, (UInt8.ofNat c.toNat).toNat = c.toNat := by
    intro c hc
    have := h c hc
    rw [UInt8.toNat_ofNat', Nat.mod_eq_of_lt (by omega)]
  induction cs using List.twoStepInduction generalizing position bs with
  | nil =>
    cases bs <;> simp [decodePairs, encodeByte]
  | singleton c =>
    cases bs with
    | nil => simp [decodePairs]
    | cons b bs => simp [decodePairs, encodeByte]
  | cons_cons c d cs ih _ =>
    simp only [List.forall_mem_cons] at h code
    have ih' := fun bs => ih h.2.2 (position + 2) bs code.2.2
    rw [List.map_cons, List.map_cons, decodePairs, code.1, code.2.1, List.map_cons, List.map_cons]
    constructor
    · intro hread
      split at hread
      · cases hread
      · cases hread
      rename_i x y hx hy
      obtain ⟨hx16, hc⟩ := (value?_eq_some_iff c x).mp hx
      obtain ⟨hy16, hd⟩ := (value?_eq_some_iff d y).mp hy
      cases hrest : decodePairs (position + 2) (cs.map fun c => UInt8.ofNat c.toNat) with
      | error fault =>
        rw [hrest] at hread
        cases hread
      | ok tail =>
        rw [hrest] at hread
        cases hread
        rw [List.flatMap_cons, encodeByte_ofNat hx16 hy16, hc, hd, (ih' tail).mp hrest]
        rfl
    · intro hlower
      cases bs with
      | nil => cases hlower
      | cons b bs =>
        have hb := b.toNat_lt
        rw [List.flatMap_cons, encodeByte, List.cons_append, List.cons_append, List.nil_append,
          List.cons.injEq, List.cons.injEq] at hlower
        obtain ⟨hc, hd, hrest⟩ := hlower
        rw [(value?_eq_some_iff c _).mpr ⟨by omega, hc⟩, (value?_eq_some_iff d _).mpr ⟨by omega, hd⟩,
          (ih' bs).mpr hrest]
        dsimp only [Except.map]
        rw [show 16 * (b.toNat / 16) + b.toNat % 16 = b.toNat by omega, UInt8.ofNat_toNat]

/-- Only characters of ASCII are read. -/
theorem lt_of_decodePairs {position : Nat} {cs bs : Bytes} (h : decodePairs position cs = .ok bs) :
    ∀ b ∈ cs, b.toNat < 0x80 := by
  induction cs using List.twoStepInduction generalizing position bs with
  | nil => simp
  | singleton c => cases h
  | cons_cons c d cs ih _ =>
    rw [decodePairs] at h
    split at h
    · cases h
    · cases h
    rename_i x y hx hy
    cases hrest : decodePairs (position + 2) cs with
    | error fault =>
      rw [hrest] at h
      cases h
    | ok tail =>
      simp only [List.forall_mem_cons]
      exact ⟨(lt_of_value? hx).1, (lt_of_value? hy).1, ih hrest⟩

/-- A text is read as bytes exactly if it spells them in lower case. -/
theorem decode?_eq_ok_iff (text : String) (bs : Bytes) :
    decode? text = .ok bs ↔ Text.asciiToLower text = encode bs := by
  have hlower : Text.asciiToLower text = encode bs ↔
      text.toList.map Char.toLower = bs.flatMap encodeByte := by
    rw [← String.toList_inj, toList_asciiToLower, encode, String.toList_ofList]
  rw [hlower]
  constructor
  · intro h
    rw [decode?] at h
    split at h
    · cases h
    have hascii := ascii_of_utf8 (lt_of_decodePairs h)
    rw [utf8_of_ascii hascii] at h
    exact (decodePairs_eq_ok_iff hascii 0 bs).mp h
  · intro h
    have hascii : ∀ c ∈ text.toList, c.toNat < 0x80 := by
      intro c hc
      have hdigit := List.mem_map_of_mem (f := Char.toLower) hc
      rw [h] at hdigit
      obtain ⟨b, -, hb⟩ := List.mem_flatMap.mp hdigit
      have hsmall := toNat_lt_of_mem_encodeByte hb
      rw [toNat_toLower] at hsmall
      split at hsmall <;> omega
    have heven : (utf8 text).length % 2 = 0 := by
      have hlength := congrArg List.length h
      rw [List.length_map, List.length_flatMap] at hlength
      rw [length_utf8_of_ascii hascii, hlength]
      simp [encodeByte]
    rw [decode?, if_neg (by omega), utf8_of_ascii hascii]
    exact (decodePairs_eq_ok_iff hascii 0 bs).mpr h

/-- The digits of bytes are read as these bytes. -/
theorem decode?_encode (bs : Bytes) : decode? (encode bs) = .ok bs := by
  have hdigit : ∀ n < 16, (digit n).toLower = digit n := fun n hn =>
    ((value?_eq_some_iff (digit n) n).mp (value?_digit hn)).2
  rw [decode?_eq_ok_iff, ← String.toList_inj, toList_asciiToLower, encode, String.toList_ofList,
    List.map_flatMap]
  congr
  funext b
  have hb := b.toNat_lt
  rw [encodeByte, List.map_cons, List.map_cons, List.map_nil, hdigit _ (by omega),
    hdigit _ (by omega)]

end Hex

end SeedWallet
