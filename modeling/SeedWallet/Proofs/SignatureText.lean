import SeedWallet.Curve.Signature
import SeedWallet.Proofs.Digits

/-!
# Signatures are written in one way

The written form of a signature nests two numbers in a sequence, each with a tag and a length. The reader
takes lengths of one byte only, numbers in their shortest form only, and nothing behind them, so what it
reads is what would be written. It also refuses scalars out of range and the higher one of two opposite
scalars. So a signature that is accepted has no other spelling, and neither has its mirror image.

To say so, pairs of numbers are also read loosely: lengths may be longer than they need be, numbers may
begin with zeros and be of any size, and anything may follow.

- `Signature.ofDer?_eq_some_iff`: bytes are read as a signature exactly if they are its written form.
- `Signature.loosePair?`: a pair of numbers in any spelling.
- `Signature.loosePair?_der`: of a written form it reads the pair of the signature.
- `PublicKey.accepts_one_form`: what is accepted is the written form of a signature that verifies, and no
  other spelling of its pair, or of the mirror image of its pair, is.
-/

namespace SeedWallet

namespace Signature

/-! ## Numbers -/

theorem integerBytes_eq (n : Nat) :
    integerBytes n = match (Digits.ofNat 256 n).map UInt8.ofNat with
      | b :: bs => if 128 ≤ b then 0 :: b :: bs else b :: bs
      | [] => [0] := by
  rw [integerBytes]
  cases (Digits.ofNat 256 n).map UInt8.ofNat <;> rfl

/-- The written form of a number spells it. -/
theorem toNat_integerBytes (n : Nat) : Bytes.toNat (integerBytes n) = n := by
  have hdigits := Digits.toNat_map_ofNat_ofNat n
  rw [integerBytes_eq]
  cases hbs : (Digits.ofNat 256 n).map UInt8.ofNat with
  | nil =>
    rw [hbs] at hdigits
    exact hdigits
  | cons b bs =>
    rw [hbs] at hdigits
    dsimp only
    split
    · rw [Bytes.toNat_cons]
      simpa using hdigits
    · exact hdigits

/-- The digits of a number do not begin with a zero byte. -/
theorem head?_digits_ne_zero (n : Nat) : ((Digits.ofNat 256 n).map UInt8.ofNat).head? ≠ some 0 := by
  have hhead := Digits.head?_ofNat_ne_zero (b := 256) (by decide) n
  cases hds : Digits.ofNat 256 n with
  | nil => simp
  | cons d ds =>
    have hlt : d < 256 := Digits.lt_of_mem_ofNat (n := n) (by decide) (by rw [hds]; simp)
    have hne : d ≠ 0 := by
      rw [hds] at hhead
      simpa using hhead
    have hbyte : (UInt8.ofNat d).toNat = d := UInt8.toNat_ofNat_of_lt hlt
    rw [List.map_cons, List.head?_cons, Ne, Option.some.injEq, ← UInt8.toNat_inj, hbyte]
    exact hne

/-- The written form of a number is the shortest one. -/
theorem isShortest_integerBytes (n : Nat) : isShortest (integerBytes n) = true := by
  have hhead := head?_digits_ne_zero n
  rw [integerBytes_eq]
  cases hbs : (Digits.ofNat 256 n).map UInt8.ofNat with
  | nil => rfl
  | cons b bs =>
    have hb : b ≠ 0 := by
      rw [hbs] at hhead
      simpa using hhead
    dsimp only
    split
    · rename_i hhigh
      simp [isShortest, hhigh]
    · rename_i hlow
      have hlt : b < 128 := UInt8.not_le.mp hlow
      cases bs with
      | nil => simp [isShortest, hlt]
      | cons c cs => simp [isShortest, hlt, hb]

/-- A number has one shortest form. -/
theorem integerBytes_toNat {bs : Bytes} (h : isShortest bs = true) :
    integerBytes (Bytes.toNat bs) = bs := by
  match bs, h with
  | [b], h =>
    have hlt : b < 128 := by simpa [isShortest] using h
    by_cases hb : b = 0
    · rw [hb]
      rfl
    · rw [integerBytes_eq, Digits.map_ofNat_ofNat_toNat (by simpa using hb)]
      exact if_neg (UInt8.not_le.mpr hlt)
  | b :: c :: bs, h =>
    rw [isShortest, Bool.and_eq_true, decide_eq_true_eq] at h
    obtain ⟨hlt, hsecond⟩ := h
    by_cases hb : b = 0
    · -- a zero stands in front of a byte that is taken for a sign without it
      have hhigh : 128 ≤ c := by simpa [hb] using hsecond
      have hc : c ≠ 0 := by
        rintro rfl
        exact absurd hhigh (by decide)
      have hvalue : Bytes.toNat (b :: c :: bs) = Bytes.toNat (c :: bs) := by
        rw [Bytes.toNat_cons, hb]
        simp
      rw [integerBytes_eq, hvalue, Digits.map_ofNat_ofNat_toNat (by simpa using hc), hb]
      exact if_pos hhigh
    · rw [integerBytes_eq, Digits.map_ofNat_ofNat_toNat (by simpa using hb)]
      exact if_neg (UInt8.not_le.mpr hlt)

/-- A scalar takes at most 33 bytes. -/
theorem length_integerBytes_le (a : Scalar) : (integerBytes a.val).length ≤ 33 := by
  have hlt : a.val < 256 ^ 32 := Nat.lt_trans a.isLt (by decide)
  have hlength : ((Digits.ofNat 256 a.val).map UInt8.ofNat).length ≤ 32 := by
    rw [List.length_map]
    exact Digits.length_ofNat_le (by decide) hlt
  rw [integerBytes_eq]
  cases hbs : (Digits.ofNat 256 a.val).map UInt8.ofNat with
  | nil => simp
  | cons b bs =>
    rw [hbs] at hlength
    dsimp only
    split
    · exact Nat.succ_le_succ hlength
    · omega

theorem length_integerBytes_lt (a : Scalar) : (integerBytes a.val).length < 128 :=
  Nat.lt_of_le_of_lt (length_integerBytes_le a) (by decide)

/-! ## Elements -/

/-- A length below 128 fits into one byte that is below 128. -/
theorem ofNat_length {bs : Bytes} (h : bs.length < 128) :
    (UInt8.ofNat bs.length).toNat = bs.length ∧ UInt8.ofNat bs.length < 128 := by
  have hn : (UInt8.ofNat bs.length).toNat = bs.length :=
    UInt8.toNat_ofNat_of_lt (Nat.lt_trans h (by decide))
  refine ⟨hn, ?_⟩
  rw [UInt8.lt_iff_toNat_lt, hn]
  exact h

/-- An element is read exactly if it is written with its length in one byte. -/
theorem readElement_eq_some_iff (tag : UInt8) (bs contents rest : Bytes) :
    readElement tag bs = some (contents, rest) ↔
      contents.length < 128 ∧ bs = element tag contents ++ rest := by
  constructor
  · intro h
    match bs, h with
    | t :: n :: bs, h =>
      rw [readElement] at h
      split at h
      · rename_i hcond
        obtain ⟨htag, hn, hle⟩ := hcond
        obtain ⟨rfl, rfl⟩ := Prod.mk.inj (Option.some.inj h)
        -- so many bytes are taken as are announced, and their number is written again as announced
        have hlength : (bs.take n.toNat).length = n.toNat := List.length_take_of_le hle
        refine ⟨?_, ?_⟩
        · rw [hlength]
          exact UInt8.lt_iff_toNat_lt.mp hn
        · rw [element, hlength, UInt8.ofNat_toNat, htag, List.cons_append, List.cons_append,
            List.take_append_drop]
      · cases h
  · rintro ⟨hlength, rfl⟩
    obtain ⟨hn, hlt⟩ := ofNat_length hlength
    rw [element, List.cons_append, List.cons_append, readElement, hn, if_pos ⟨rfl, hlt, by simp⟩,
      List.take_left, List.drop_left]

/-- A scalar is read exactly if it is written in its shortest form. -/
theorem readScalar_eq_some_iff (bs : Bytes) (a : Scalar) (rest : Bytes) :
    readScalar bs = some (a, rest) ↔ bs = element 0x02 (integerBytes a.val) ++ rest := by
  constructor
  · intro h
    rw [readScalar] at h
    split at h
    · rename_i contents rest' hread
      split at h
      · split at h
        · rename_i hlt hshortest
          obtain ⟨rfl, rfl⟩ := Prod.mk.inj (Option.some.inj h)
          rw [integerBytes_toNat hshortest]
          exact ((readElement_eq_some_iff _ _ _ _).mp hread).2
        · cases h
      · cases h
    · cases h
  · rintro rfl
    have hread := (readElement_eq_some_iff 0x02 _ _ rest).mpr ⟨length_integerBytes_lt a, rfl⟩
    rw [readScalar, hread]
    simp only [isShortest_integerBytes, if_true, toNat_integerBytes, dif_pos a.isLt]

/-! ## Signatures -/

/-- What the written form of a signature contains. -/
def contents (sig : Signature) : Bytes :=
  element 0x02 (integerBytes sig.r.val) ++ element 0x02 (integerBytes sig.s.val)

theorem der_eq (sig : Signature) : sig.der = element 0x30 sig.contents := rfl

theorem length_element (tag : UInt8) (bs : Bytes) : (element tag bs).length = bs.length + 2 := rfl

/-- The contents are short enough for a length of one byte. -/
theorem length_contents_lt (sig : Signature) : sig.contents.length < 128 := by
  have hr := length_integerBytes_le sig.r
  have hs := length_integerBytes_le sig.s
  rw [contents, List.length_append, length_element, length_element]
  omega

/-- Bytes are read as a signature exactly if they are its written form. -/
theorem ofDer?_eq_some_iff (bs : Bytes) (sig : Signature) : ofDer? bs = some sig ↔ bs = sig.der := by
  constructor
  · intro h
    rw [ofDer?] at h
    split at h
    · rename_i inside hread
      obtain ⟨-, hbs⟩ := (readElement_eq_some_iff _ _ _ _).mp hread
      obtain ⟨⟨r, rest⟩, hr, h⟩ := Option.bind_eq_some_iff.mp h
      obtain ⟨⟨s, rest'⟩, hs, h⟩ := Option.bind_eq_some_iff.mp h
      have hinside := (readScalar_eq_some_iff _ _ _).mp hr
      have hrest := (readScalar_eq_some_iff _ _ _).mp hs
      dsimp only at h hrest
      split at h
      · rename_i hend
        rw [ofPair?] at h
        split at h
        · cases h
          rw [hbs, hinside, hrest, hend, List.append_nil, List.append_nil]
          rfl
        · cases h
      · cases h
    · cases h
  · rintro rfl
    have hread := (readElement_eq_some_iff 0x30 sig.der sig.contents []).mpr
      ⟨sig.length_contents_lt, by rw [der_eq, List.append_nil]⟩
    have hr := (readScalar_eq_some_iff sig.contents sig.r _).mpr rfl
    have hs := (readScalar_eq_some_iff (element 0x02 (integerBytes sig.s.val)) sig.s []).mpr
      (List.append_nil _).symm
    rw [ofDer?, hread]
    dsimp only
    rw [hr, Option.bind_eq_bind, Option.bind_some]
    dsimp only
    rw [hs, Option.bind_some]
    dsimp only
    rw [if_pos rfl, ofPair?, dif_pos ⟨sig.r_ne_zero, sig.s_ne_zero, sig.s_low⟩]

/-! ## Other spellings -/

/-- A length, which is stated in one byte or in as many bytes as the first one says, and what follows. -/
def looseLength? : Bytes → Option (Nat × Bytes)
  | [] => none
  | n :: bs =>
    if n < 128 then some (n.toNat, bs)
    else if n.toNat - 128 ≤ bs.length then
      some (Bytes.toNat (bs.take (n.toNat - 128)), bs.drop (n.toNat - 128))
    else none

/-- The contents of an element with that tag, and what follows it. -/
def looseElement? (tag : UInt8) : Bytes → Option (Bytes × Bytes)
  | [] => none
  | t :: bs =>
    if t = tag then
      (looseLength? bs).bind fun (n, bs) =>
        if n ≤ bs.length then some (bs.take n, bs.drop n) else none
    else none

/-- The two numbers of a sequence, in any spelling. -/
def loosePair? (bs : Bytes) : Option (Nat × Nat) := do
  let (inside, _) ← looseElement? 0x30 bs
  let (r, rest) ← looseElement? 0x02 inside
  let (s, _) ← looseElement? 0x02 rest
  return (Bytes.toNat r, Bytes.toNat s)

/-- An element that is written with its length in one byte is read loosely, too. -/
theorem looseElement?_element (tag : UInt8) {bs : Bytes} (h : bs.length < 128) (rest : Bytes) :
    looseElement? tag (element tag bs ++ rest) = some (bs, rest) := by
  obtain ⟨hn, hlt⟩ := ofNat_length h
  rw [element, List.cons_append, List.cons_append, looseElement?, if_pos rfl, looseLength?,
    if_pos hlt, hn, Option.bind_some]
  dsimp only
  rw [if_pos (by simp), List.take_left, List.drop_left]

/-- Of a written form the pair of the signature is read. -/
theorem loosePair?_der (sig : Signature) : loosePair? sig.der = some (sig.r.val, sig.s.val) := by
  have hpair := looseElement?_element 0x30 sig.length_contents_lt []
  have hr := looseElement?_element 0x02 (length_integerBytes_lt sig.r)
    (element 0x02 (integerBytes sig.s.val))
  have hs := looseElement?_element 0x02 (length_integerBytes_lt sig.s) []
  rw [List.append_nil] at hpair hs
  rw [loosePair?, der_eq, hpair, Option.bind_eq_bind, Option.bind_some]
  dsimp only
  rw [contents, hr, Option.bind_some]
  dsimp only
  rw [hs, Option.bind_some]
  dsimp only
  rw [toNat_integerBytes, toNat_integerBytes]
  rfl

/-- Lengths that are too long, a number that begins with zeros and further bytes in two places. -/
example : loosePair? [0x30, 0x82, 0, 11, 2, 3, 0, 0, 7, 2, 0x81, 1, 200, 5, 5, 9, 9] =
    some (7, 200) := by decide

/-- Signatures with one pair are one. -/
theorem eq_of_pair_eq {sig sig' : Signature} (hr : sig.r = sig'.r) (hs : sig.s = sig'.s) :
    sig = sig' := by
  cases sig
  cases sig'
  cases hr
  cases hs
  rfl

end Signature

namespace PublicKey

/-- What is accepted is the written form of a signature that verifies. -/
theorem verifiesDer_eq_true_iff (key : PublicKey) (message der : Bytes) :
    key.verifiesDer message der = true ↔
      ∃ sig : Signature, der = sig.der ∧ key.verifies message sig = true := by
  rw [verifiesDer]
  constructor
  · intro h
    split at h
    · rename_i sig hsig
      exact ⟨sig, (Signature.ofDer?_eq_some_iff der sig).mp hsig, h⟩
    · cases h
  · rintro ⟨sig, rfl, h⟩
    rw [(Signature.ofDer?_eq_some_iff sig.der sig).mpr rfl]
    exact h

/-- What is accepted spells the pair of a signature in one way. -/
theorem eq_der_of_verifiesDer {key : PublicKey} {message der : Bytes} {r s : Nat}
    (h : key.verifiesDer message der = true) (hpair : Signature.loosePair? der = some (r, s)) :
    ∃ sig : Signature, der = sig.der ∧ sig.r.val = r ∧ sig.s.val = s := by
  obtain ⟨sig, rfl, -⟩ := (verifiesDer_eq_true_iff key message der).mp h
  rw [Signature.loosePair?_der] at hpair
  obtain ⟨hr, hs⟩ := Prod.mk.inj (Option.some.inj hpair)
  exact ⟨sig, rfl, hr, hs⟩

/-- **A signature is accepted in one form.** What a public key accepts for a message is the written form
of a signature that verifies, whose scalars are in range. No other spelling of the same pair is accepted,
and no spelling of the pair with the opposite second scalar, by any key for any message. -/
theorem accepts_one_form (key : PublicKey) (message der : Bytes) :
    key.verifiesDer message der = true ↔
      ∃ sig : Signature, (Signature.ofDer? der = some sig ∧ key.verifies message sig = true) ∧
        der = sig.der ∧
        (0 < sig.r.val ∧ sig.r.val < curveOrder) ∧ (0 < sig.s.val ∧ sig.s.val ≤ curveOrder / 2) ∧
        (∀ (key' : PublicKey) message' der',
          Signature.loosePair? der' = some (sig.r.val, sig.s.val) →
          key'.verifiesDer message' der' = true → der' = der) ∧
        (∀ (key' : PublicKey) message' der',
          Signature.loosePair? der' = some (sig.r.val, curveOrder - sig.s.val) →
          key'.verifiesDer message' der' = false) := by
  constructor
  · intro h
    obtain ⟨sig, rfl, hverifies⟩ := (verifiesDer_eq_true_iff key message der).mp h
    have hr : 0 < sig.r.val := Fin.pos_iff_ne_zero.mpr sig.r_ne_zero
    have hs : 0 < sig.s.val := Fin.pos_iff_ne_zero.mpr sig.s_ne_zero
    refine ⟨sig, ⟨(Signature.ofDer?_eq_some_iff _ sig).mpr rfl, hverifies⟩, rfl, ⟨hr, sig.r.isLt⟩,
      ⟨hs, sig.s_low⟩, ?_, ?_⟩
    · intro key' message' der' hpair hother
      obtain ⟨sig', rfl, hr', hs'⟩ := eq_der_of_verifiesDer hother hpair
      rw [Signature.eq_of_pair_eq (Fin.ext hr') (Fin.ext hs')]
    · intro key' message' der' hpair
      rw [Bool.eq_false_iff]
      intro hother
      obtain ⟨sig', -, -, hs'⟩ := eq_der_of_verifiesDer hother hpair
      -- the order is odd, so two opposite scalars are not both in the lower half
      have hlow := sig.s_low
      have hlow' := sig'.s_low
      have hodd : curveOrder / 2 + curveOrder / 2 < curveOrder := by decide
      omega
  · rintro ⟨sig, ⟨-, hverifies⟩, hder, -⟩
    exact (verifiesDer_eq_true_iff key message der).mpr ⟨sig, hder, hverifies⟩

end PublicKey

end SeedWallet
