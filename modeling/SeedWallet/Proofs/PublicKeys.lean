import SeedWallet.Proofs.CurveGroup
import SeedWallet.Proofs.HexText
import SeedWallet.PublicKeyText

/-!
# Written public keys are read back

The compressed form of a public key leaves out all of the second coordinate but its parity. What is left
out is a square root: the field prime is 3 modulo 4, so that a power of a square is one of its two roots,
and since the prime is odd the roots differ in parity.

- `FieldElement.sqrt?_mul_self`: a square has a root, which is one of the two.
- `PublicKey.ofBytes?_compressed`: the compressed form of a key is read as that key.
- `PublicKey.hybrid`: a third form, in which no key is written but each is read.
- `PublicKey.ofBytes?_eq_some_iff`: which 65 bytes are read as a key.
- `PublicKey.parse_hex`: a key that is written in digits is read as that key.
-/

namespace SeedWallet

open scoped Fin.CommRing

/-! ## Roots -/

namespace FieldElement

/-- A power of a square is a root of it. -/
theorem pow_mul_pow_self {y : ZMod fieldPrime} :
    (y * y) ^ ((fieldPrime + 1) / 4) * (y * y) ^ ((fieldPrime + 1) / 4) = y * y := by
  have hexponent : 2 * ((fieldPrime + 1) / 4 + (fieldPrime + 1) / 4) = (fieldPrime - 1) + 2 := by
    decide
  by_cases hy : y = 0
  · rw [hy, mul_zero, zero_pow (by decide), mul_zero]
  · rw [← pow_add, ← pow_two, ← pow_mul, hexponent, pow_add, ZMod.pow_card_sub_one_eq_one hy, one_mul]

/-- A square has a root, which is one of the two numbers that it is the square of. -/
theorem sqrt?_mul_self (y : FieldElement) : ∃ r, sqrt? (y * y) = some r ∧ (r = y ∨ r = -y) := by
  have hsquare : Modular.pow (y * y) ((fieldPrime + 1) / 4) *
      Modular.pow (y * y) ((fieldPrime + 1) / 4) = y * y := by
    apply residue.injective
    rw [map_mul, residue, Modular.finEquiv_pow _ (by decide), map_mul]
    exact pow_mul_pow_self
  rw [sqrt?]
  -- from here on the power is any root, since no step may evaluate it
  generalize Modular.pow (y * y) ((fieldPrime + 1) / 4) = r at hsquare ⊢
  refine ⟨r, if_pos hsquare, ?_⟩
  have hresidue : residue r * residue r = residue y * residue y := by
    rw [← map_mul, hsquare, map_mul]
  rcases mul_self_eq_mul_self_iff.mp hresidue with h | h
  · exact .inl (residue.injective h)
  · exact .inr (residue.injective (h.trans (map_neg residue y).symm))

/-- Numbers that differ in sign differ in parity. -/
theorem isOdd_neg {y : FieldElement} (h : y ≠ 0) : (-y).isOdd = !y.isOdd := by
  have hpos : 0 < y.val := Fin.pos_iff_ne_zero.mpr h
  have hval : (-y).val = fieldPrime - y.val := by
    rw [Fin.val_neg, if_neg h]
  have hlt := y.isLt
  have hodd : fieldPrime % 2 = 1 := by decide
  rw [isOdd, isOdd, hval, ← decide_not, decide_eq_decide]
  omega

end FieldElement

/-! ## Written forms -/

namespace PublicKey

/-- A key is known by its first coordinate and the parity of the second one. -/
theorem ofAbscissa?_self (p : PublicKey) : ofAbscissa? p.x p.y.isOdd = some p := by
  obtain ⟨r, hr, hsign⟩ := FieldElement.sqrt?_mul_self p.y
  have hroot : (if r.isOdd = p.y.isOdd then r else -r) = p.y := by
    rcases hsign with rfl | rfl
    · exact if_pos rfl
    · -- zero is its own negative, and no other number has the parity of its negative
      by_cases hy : p.y = 0
      · rw [hy]
        simp
      · rw [FieldElement.isOdd_neg hy, if_neg (by simp), neg_neg]
  rw [ofAbscissa?, ← p.onCurve, hr, Option.bind_some, hroot, ofCoordinates?_self]

/-- The compressed form of a key is read as that key. -/
theorem ofBytes?_compressed (p : PublicKey) : ofBytes? p.compressed = some p := by
  have habscissa := p.ofAbscissa?_self
  rw [compressed, ofBytes?]
  cases hodd : p.y.isOdd with
  | false =>
    rw [hodd] at habscissa
    simp [habscissa]
  | true =>
    rw [hodd] at habscissa
    simp [habscissa]

/-- The other form of 65 bytes, whose first byte tells the parity of the second coordinate. -/
def hybrid (p : PublicKey) : Bytes :=
  (if p.y.isOdd then 7 else 6) :: (p.x.bytes ++ p.y.bytes)

@[simp] theorem length_hybrid (p : PublicKey) : p.hybrid.length = 65 := by
  simp [hybrid]

theorem hybrid_ne_uncompressed (p q : PublicKey) : p.hybrid ≠ q.uncompressed := by
  intro h
  have htag := (List.cons.inj h).1
  cases hodd : p.y.isOdd <;> simp [hodd] at htag

/-- Both coordinates are read if they stand behind a first byte that agrees with them. -/
theorem ofBytes?_coordinates (p : PublicKey) {tag : UInt8} (h : tag = 4 ∨ tag = 6 ∨ tag = 7)
    (hparity : tag = 4 ∨ p.y.isOdd = (tag = 7 : Bool)) :
    ofBytes? (tag :: (p.x.bytes ++ p.y.bytes)) = some p := by
  have hx : (p.x.bytes ++ p.y.bytes).take 32 = p.x.bytes := List.take_left' (by simp)
  have hy : (p.x.bytes ++ p.y.bytes).drop 32 = p.y.bytes := List.drop_left' (by simp)
  rw [ofBytes?, if_neg (by simp), if_pos ⟨by simp, h⟩, hx, hy, FieldElement.ofBytes?_bytes,
    FieldElement.ofBytes?_bytes]
  dsimp only [Option.bind_eq_bind, Option.bind_some]
  rw [if_pos hparity, ofCoordinates?_self]

/-- A key that has two coordinates is the key with these coordinates. -/
theorem eq_of_ofCoordinates? {x y : FieldElement} {p : PublicKey} (h : ofCoordinates? x y = some p) :
    p.x = x ∧ p.y = y := by
  rw [ofCoordinates?] at h
  split at h
  · cases h
    exact ⟨rfl, rfl⟩
  · cases h

/-- Of a first byte and 64 others a key is read only if they are its coordinates. -/
theorem coordinates_of_ofBytes? {tag : UInt8} {coordinates : Bytes} {p : PublicKey}
    (hlength : coordinates.length = 64) (hp : ofBytes? (tag :: coordinates) = some p) :
    (tag = 4 ∨ tag = 6 ∨ tag = 7) ∧ (tag = 4 ∨ p.y.isOdd = (tag = 7 : Bool)) ∧
      coordinates = p.x.bytes ++ p.y.bytes := by
  have hfront : (coordinates.take 32).length = 32 := List.length_take_of_le (by omega)
  have hback : (coordinates.drop 32).length = 32 := by
    rw [List.length_drop, hlength]
  rw [ofBytes?, if_neg (by omega)] at hp
  split at hp
  · rename_i htag
    obtain ⟨x, hx, hp⟩ := Option.bind_eq_some_iff.mp hp
    obtain ⟨y, hy, hp⟩ := Option.bind_eq_some_iff.mp hp
    split at hp
    · rename_i hparity
      obtain ⟨rfl, rfl⟩ := eq_of_ofCoordinates? hp
      refine ⟨htag.2, hparity, ?_⟩
      rw [FieldElement.bytes_of_ofBytes? hfront hx, FieldElement.bytes_of_ofBytes? hback hy,
        List.take_append_drop]
    · cases hp
  · cases hp

/-- Of 65 bytes a key is read exactly if they are its uncompressed or its hybrid form. -/
theorem ofBytes?_eq_some_iff {bs : Bytes} (h : bs.length = 65) (p : PublicKey) :
    ofBytes? bs = some p ↔ bs = p.uncompressed ∨ bs = p.hybrid := by
  constructor
  · intro hp
    cases bs with
    | nil => cases h
    | cons tag coordinates =>
      obtain ⟨htag, hparity, rfl⟩ := coordinates_of_ofBytes? (Nat.succ.inj h) hp
      rcases htag with rfl | rfl | rfl
      · exact .inl rfl
      · have heven : p.y.isOdd = false := by simpa using hparity
        rw [hybrid, heven]
        exact .inr rfl
      · have hodd : p.y.isOdd = true := by simpa using hparity
        rw [hybrid, hodd]
        exact .inr rfl
  · rintro (rfl | rfl)
    · exact ofBytes?_uncompressed p
    · rw [hybrid]
      cases hodd : p.y.isOdd with
      | false => exact p.ofBytes?_coordinates (by simp) (by simp [hodd])
      | true => exact p.ofBytes?_coordinates (by simp) (by simp [hodd])

end PublicKey

/-- A key that is written in digits is read as that key. -/
theorem PublicKey.parse_hex (p : PublicKey) : parse p.hex = .ok p := by
  rw [parse, hex, Hex.decode?_encode]
  simp only [ofBytes?_compressed]

end SeedWallet
