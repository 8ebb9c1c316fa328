import SeedWallet.Proofs.KeyPairs

/-!
# Which digits are public keys

A text is read as a public key exactly if it spells one of the three written forms of the key, in digits
of either letter case. So what is read lies on the curve and has coordinates below the field prime, and
no text is read as another key than the one whose coordinates it spells. In the compressed form a second
coordinate of the right parity is chosen, which decides between the two roots because no point has the
second coordinate zero.

- `PublicKey.eq_of_ofAbscissa?`: what is found has the first coordinate and the parity that were asked
  for.
- `PublicKey.ofBytes?_eq_some_iff_form`: which bytes are read as a key.
- `PublicKey.parse_eq_ok_iff`: which texts are read as a key.
- `PublicKey.read_as_written`: what that means for the coordinates.
-/

namespace SeedWallet

namespace PublicKey

open scoped Fin.CommRing

/-- The second coordinate of a key is not zero. -/
theorem y_ne_zero (p : PublicKey) : p.y ≠ 0 := fun h =>
  curve.y_ne_zero p.nonsingular (FieldElement.residue_eq_zero_iff.mpr h)

/-- What is found has the first coordinate and the parity that were asked for. -/
theorem eq_of_ofAbscissa? {x : FieldElement} {odd : Bool} {p : PublicKey}
    (h : ofAbscissa? x odd = some p) : p.x = x ∧ p.y.isOdd = odd := by
  obtain ⟨y, -, hp⟩ := Option.bind_eq_some_iff.mp h
  obtain ⟨hx, hy⟩ := eq_of_ofCoordinates? hp
  refine ⟨hx, ?_⟩
  have hzero := p.y_ne_zero
  rw [hy] at hzero ⊢
  split
  · assumption
  · rename_i hparity
    rw [if_neg hparity] at hzero
    rw [FieldElement.isOdd_neg (neg_ne_zero.mp hzero)]
    simp [Bool.eq_not_iff.mpr hparity]

/-- Of 33 bytes a key is read exactly if they are its compressed form. -/
theorem ofBytes?_eq_some_iff_compressed {bs : Bytes} (h : bs.length = 33) (p : PublicKey) :
    ofBytes? bs = some p ↔ bs = p.compressed := by
  constructor
  · intro hp
    cases bs with
    | nil => cases h
    | cons tag coordinate =>
      have hlength : coordinate.length = 32 := Nat.succ.inj h
      rw [ofBytes?] at hp
      split at hp
      · rename_i htag
        obtain ⟨x, hx, hp⟩ := Option.bind_eq_some_iff.mp hp
        obtain ⟨rfl, hodd⟩ := eq_of_ofAbscissa? hp
        rw [compressed, FieldElement.bytes_of_ofBytes? hlength hx, hodd]
        rcases htag.2 with rfl | rfl <;> rfl
      · rw [if_neg (by omega)] at hp
        cases hp
  · rintro rfl
    exact p.ofBytes?_compressed

/-- Keys have forms of two lengths. -/
theorem length_of_ofBytes? {bs : Bytes} {p : PublicKey} (h : ofBytes? bs = some p) :
    bs.length = 33 ∨ bs.length = 65 := by
  cases bs with
  | nil => cases h
  | cons tag coordinates =>
    rw [List.length_cons]
    rw [ofBytes?] at h
    split at h
    · omega
    split at h
    · omega
    · cases h

/-- A key is read exactly from its three forms. -/
theorem ofBytes?_eq_some_iff_form (bs : Bytes) (p : PublicKey) :
    ofBytes? bs = some p ↔ bs = p.compressed ∨ bs = p.uncompressed ∨ bs = p.hybrid := by
  constructor
  · intro h
    rcases length_of_ofBytes? h with hlength | hlength
    · exact .inl ((ofBytes?_eq_some_iff_compressed hlength p).mp h)
    · exact .inr ((ofBytes?_eq_some_iff hlength p).mp h)
  · rintro (rfl | h)
    · exact p.ofBytes?_compressed
    · refine (ofBytes?_eq_some_iff ?_ p).mpr h
      rcases h with rfl | rfl
      · exact p.length_uncompressed
      · exact p.length_hybrid

/-- A text is read as a key exactly if it spells one of the key's forms, in digits of either case. -/
theorem parse_eq_ok_iff (text : String) (p : PublicKey) :
    parse text = .ok p ↔ ∃ bs, Text.asciiToLower text = Hex.encode bs ∧
      (bs = p.compressed ∨ bs = p.uncompressed ∨ bs = p.hybrid) := by
  simp only [← Hex.decode?_eq_ok_iff, ← ofBytes?_eq_some_iff_form, parse]
  cases hdecode : Hex.decode? text with
  | error fault => simp
  | ok bs =>
    cases hread : ofBytes? bs with
    | none => simp [hread]
    | some q => simp [hread]

/-- The equation of the curve in numbers. -/
theorem sq_y_mod_eq (p : PublicKey) :
    p.y.val ^ 2 % fieldPrime = (p.x.val ^ 3 + 7) % fieldPrime := by
  have h := congrArg Fin.val p.onCurve
  rw [Fin.val_add, Fin.val_mul, Fin.val_mul, Fin.val_mul] at h
  have hseven : (7 : FieldElement).val = 7 := by decide
  rw [hseven] at h
  rw [pow_two, h, pow_succ, pow_two]
  simp [Nat.add_mod, Nat.mul_mod]

/-- The parity of the second coordinate as a number. -/
theorem y_mod_two (p : PublicKey) : p.y.val % 2 = if p.y.isOdd then 1 else 0 := by
  rw [FieldElement.isOdd]
  split <;> rename_i h
  · simpa using h
  · have : ¬ p.y.val % 2 = 1 := by simpa using h
    omega

/-- What the forms of a key spell: its first coordinate behind a first byte that tells the parity of the
second one, or both coordinates. -/
theorem exists_coordinates_of_form {bs : Bytes} {p : PublicKey}
    (h : bs = p.compressed ∨ bs = p.uncompressed ∨ bs = p.hybrid) :
    ∃ tag x y, bs = tag :: (x ++ y) ∧ x.length = 32 ∧ Bytes.toNat x = p.x.val ∧
      (y = [] ∧ tag.toNat = 2 + p.y.val % 2 ∨
        y.length = 32 ∧ Bytes.toNat y = p.y.val ∧
          (tag.toNat = 4 ∨ tag.toNat = 6 + p.y.val % 2)) := by
  have hx := FieldElement.length_bytes p.x
  have hy := FieldElement.length_bytes p.y
  rw [y_mod_two]
  rcases h with rfl | rfl | rfl
  · refine ⟨_, p.x.bytes, [], by rw [List.append_nil]; rfl, hx, p.x.toNat_bytes, .inl ⟨rfl, ?_⟩⟩
    split <;> rfl
  · exact ⟨_, p.x.bytes, p.y.bytes, rfl, hx, p.x.toNat_bytes, .inr ⟨hy, p.y.toNat_bytes, .inl rfl⟩⟩
  · refine ⟨_, p.x.bytes, p.y.bytes, rfl, hx, p.x.toNat_bytes, .inr ⟨hy, p.y.toNat_bytes, .inr ?_⟩⟩
    split <;> rfl

/-- **Keys are read as they are written.** Both written forms of a key are read as the key, in digits of
any case. Whatever is read as a key spells the 33 or 65 bytes of a first byte and coordinates: the first
coordinate is the key's, and either the first byte tells the parity of the second one, or this is spelled
as well and the first byte does not contradict it. The coordinates are below the field prime and solve
the equation of the curve, and no other key has the same first coordinate and parity. -/
theorem read_as_written :
    (∀ (p : PublicKey) text, Text.asciiToLower text = Hex.encode p.compressed ∨
      Text.asciiToLower text = Hex.encode p.uncompressed → parse text = .ok p) ∧
    (∀ text p, parse text = .ok p →
      (∃ tag x y, Text.asciiToLower text = Hex.encode (tag :: (x ++ y)) ∧
        x.length = 32 ∧ Bytes.toNat x = p.x.val ∧
          (y = [] ∧ tag.toNat = 2 + p.y.val % 2 ∨
            y.length = 32 ∧ Bytes.toNat y = p.y.val ∧
              (tag.toNat = 4 ∨ tag.toNat = 6 + p.y.val % 2))) ∧
      p.x.val < fieldPrime ∧ p.y.val < fieldPrime ∧
      p.y.val ^ 2 % fieldPrime = (p.x.val ^ 3 + 7) % fieldPrime ∧
      ∀ q : PublicKey, q.x = p.x → q.y.val % 2 = p.y.val % 2 → q = p) := by
  refine ⟨fun p text h => ?_, fun text p h => ⟨?_, p.x.isLt, p.y.isLt, p.sq_y_mod_eq,
    fun q hx hy => eq_of_isOdd_eq hx ?_⟩⟩
  · refine (parse_eq_ok_iff text p).mpr ?_
    rcases h with h | h
    · exact ⟨_, h, .inl rfl⟩
    · exact ⟨_, h, .inr (.inl rfl)⟩
  · obtain ⟨bs, htext, hform⟩ := (parse_eq_ok_iff text p).mp h
    obtain ⟨tag, x, y, rfl, hcoordinates⟩ := exists_coordinates_of_form hform
    exact ⟨tag, x, y, htext, hcoordinates⟩
  · rw [FieldElement.isOdd, FieldElement.isOdd, hy]

/-- The generator in digits of both cases. -/
theorem read_as_written_generator :
    Text.asciiToLower "0279BE667EF9DCBBAC55A06295CE870B07029bfcdb2dce28d959f2815b16f81798" =
        Hex.encode generator.compressed ∧
      parse "0279BE667EF9DCBBAC55A06295CE870B07029bfcdb2dce28d959f2815b16f81798" =
        .ok generator ∧
      ∃ tag x y, Text.asciiToLower
          "0279BE667EF9DCBBAC55A06295CE870B07029bfcdb2dce28d959f2815b16f81798" =
          Hex.encode (tag :: (x ++ y)) ∧
        Bytes.toNat x = generator.x.val := by
  obtain ⟨hwritten, hread⟩ := read_as_written
  have htext : Text.asciiToLower
      "0279BE667EF9DCBBAC55A06295CE870B07029bfcdb2dce28d959f2815b16f81798" =
      Hex.encode generator.compressed := by decide +kernel
  have hparse := hwritten generator _ (.inl htext)
  obtain ⟨⟨tag, x, y, hspelled, -, hx, -⟩, -⟩ := hread _ generator hparse
  exact ⟨htext, hparse, tag, x, y, hspelled, hx⟩

end PublicKey

end SeedWallet
