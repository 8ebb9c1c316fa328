import Mathlib.Data.List.Forall2
import SeedWallet.Text.Utf8

/-!
# Characters and bytes of plain texts

A text is kept as its UTF-8 bytes, so that reading off its characters means decoding them. Two kinds of
texts need no decoding: those that are made of characters in the first place, as every literal is, and
those of ASCII characters, which are their own bytes.

- `toList_of_spelled`: what holds of the characters that literals are made of.
- `utf8_of_ascii`, `length_utf8_of_ascii`: the bytes of a text of ASCII characters.
- `ascii_of_utf8`: which texts have such bytes.
-/

namespace SeedWallet

section

variable {texts : List String} {spelled : List (List Char)}

/-- The characters that are read off are those that texts are made of. -/
theorem map_toList_of_spelled
    (h : List.Forall₂ (fun s cs => s = String.ofList cs) texts spelled) :
    texts.map String.toList = spelled := by
  induction h with
  | nil => rfl
  | cons hs _ ih => rw [List.map_cons, hs, String.toList_ofList, ih]

/-- So what holds of the ones holds of the others. A literal is made of its characters by definition,
which is why `constructor` finds them. -/
theorem toList_of_spelled {P : List (List Char) → Prop}
    (h : List.Forall₂ (fun s cs => s = String.ofList cs) texts spelled) (hP : P spelled) :
    P (texts.map String.toList) := by
  rw [map_toList_of_spelled h]
  exact hP

end

/-- The bytes of a text are those of its characters. -/
theorem utf8_eq_flatMap (s : String) : utf8 s = s.toList.flatMap String.utf8EncodeChar := by
  conv => lhs; rw [← String.ofList_toList (s := s)]
  rw [utf8, String.toUTF8_eq_toByteArray, String.toByteArray_ofList]
  exact List.toList_data_toByteArray

/-- A character of ASCII is its own byte. -/
theorem utf8EncodeChar_of_ascii {c : Char} (h : c.toNat < 0x80) :
    String.utf8EncodeChar c = [UInt8.ofNat c.toNat] := by
  have hsize : c.utf8Size = 1 := by
    rw [Char.utf8Size_eq_one_iff, UInt32.le_iff_toNat_le, Char.toNat_val]
    show c.toNat ≤ 127
    omega
  rw [String.utf8EncodeChar_eq_singleton hsize, List.cons.injEq]
  refine ⟨?_, rfl⟩
  rw [← UInt8.toNat_inj, UInt8.toNat_ofNat', UInt32.toNat_toUInt8, Char.toNat_val]

/-- The bytes of a text of ASCII characters are the numbers of the characters. -/
theorem utf8_of_ascii {s : String} (h : ∀ c ∈ s.toList, c.toNat < 0x80) :
    utf8 s = s.toList.map fun c => UInt8.ofNat c.toNat := by
  rw [utf8_eq_flatMap]
  generalize s.toList = cs at h
  induction cs with
  | nil => rfl
  | cons c cs ih =>
    rw [List.forall_mem_cons] at h
    rw [List.flatMap_cons, List.map_cons, utf8EncodeChar_of_ascii h.1, ih h.2,
      List.singleton_append]

/-- So it has as many bytes as characters. -/
theorem length_utf8_of_ascii {s : String} (h : ∀ c ∈ s.toList, c.toNat < 0x80) :
    (utf8 s).length = s.toList.length := by
  rw [utf8_of_ascii h, List.length_map]

/-- A text is known by its bytes. -/
theorem utf8_injective : Function.Injective utf8 := by
  intro s t h
  rw [utf8, utf8, String.toUTF8_eq_toByteArray, String.toUTF8_eq_toByteArray] at h
  exact String.toByteArray_inj.mp (ByteArray.ext (Array.toList_inj.mp h))

/-- A text whose bytes are in ASCII consists of characters of ASCII. -/
theorem ascii_of_utf8 {s : String} (h : ∀ b ∈ utf8 s, b.toNat < 0x80) :
    ∀ c ∈ s.toList, c.toNat < 0x80 := by
  have hcode : ∀ n < 0x80, (Char.ofNat n).toNat = n := by decide
  have hnumber : ∀ b ∈ utf8 s, (Char.ofNat b.toNat).toNat = b.toNat := fun b hb => hcode _ (h b hb)
  obtain ⟨t, ht⟩ : ∃ t, t = String.ofList ((utf8 s).map fun b => Char.ofNat b.toNat) := ⟨_, rfl⟩
  have hascii : ∀ c ∈ t.toList, c.toNat < 0x80 := by
    rw [ht, String.toList_ofList]
    intro c hc
    obtain ⟨b, hb, rfl⟩ := List.mem_map.mp hc
    rw [hnumber b hb]
    exact h b hb
  have hbytes : utf8 t = utf8 s := by
    rw [utf8_of_ascii hascii, ht, String.toList_ofList, List.map_map]
    refine (List.map_congr_left fun b hb => ?_).trans (List.map_id _)
    show UInt8.ofNat (Char.ofNat b.toNat).toNat = b
    rw [hnumber b hb, UInt8.ofNat_toNat]
  rwa [← utf8_injective hbytes]

end SeedWallet
