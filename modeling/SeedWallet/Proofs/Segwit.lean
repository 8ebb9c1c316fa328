import Mathlib.Data.List.TakeDrop
import Mathlib.Data.List.TakeWhile
import SeedWallet.Proofs.Alphabet
import SeedWallet.Proofs.Bech32
import SeedWallet.Proofs.PlainText
import SeedWallet.Proofs.Regrouping

/-!
# Segwit texts are canonical

What a segwit text stands for is decided by its lower-case form alone: a text that does not mix letter
cases is accepted exactly if lowering it gives the encoding of a witness program that has a proper
human-readable part, a version up to 16, and a length that its version admits. Since an encoding
determines the three, there is one text for each program, up to the case of the whole.

- `Segwit.splitAtSeparator?_eq_some_iff`: where the last separator stands.
- `Segwit.readParts_eq_ok_iff`: which texts have a human-readable part and symbols.
- `Segwit.decode_of_carries`, `Segwit.exists_carries_of_decode`: which texts are read up to the last
  check.
- `Segwit.decode_eq_ok_iff`: which texts are addresses, and of what.
- `Segwit.length_toList_encode`: the length of an address, in symbols.
-/

namespace SeedWallet

namespace Segwit

theorem toList_encode (hrp : String) (version : Nat) (program : Bytes) :
    (encode hrp version program).toList
      = hrp.toList ++ '1' :: (payload version program ++
          Bech32.checksum (variant version) hrp.toList (payload version program)).map Symbol.char := by
  rw [encode, String.toList_ofList]

/-- Separator, version and checksum take eight characters. -/
theorem length_toList_encode (hrp : String) (version : Nat) (program : Bytes) :
    (encode hrp version program).toList.length
      = hrp.toList.length + (8 * program.length + 4) / 5 + 8 := by
  rw [toList_encode]
  simp only [List.length_append, List.length_cons, List.length_map, payload, Symbol.length_ofBits,
    Bytes.length_bits, Bech32.length_checksum]
  omega

/-! ## The parts of a text -/

/-- The separator that counts is the last one. -/
theorem splitAtSeparator?_eq_some_iff (cs before after : List Char) :
    splitAtSeparator? cs = some (before, after) ↔ cs = before ++ '1' :: after ∧ '1' ∉ after := by
  rw [splitAtSeparator?, List.span_eq_takeWhile_dropWhile]
  constructor
  · intro h
    split at h
    · rename_i tail sep front hspan
      cases h
      obtain ⟨htake, hdrop⟩ := Prod.mk.inj hspan
      have hsep : sep = '1' := by
        have := List.head?_dropWhile_not (· != '1') cs.reverse
        rw [hdrop] at this
        simpa using this
      have hcs : cs.reverse = tail ++ '1' :: front := by
        rw [← List.takeWhile_append_dropWhile (p := (· != '1')) (l := cs.reverse), htake, hdrop,
          hsep]
      refine ⟨?_, ?_⟩
      · rw [← List.reverse_reverse cs, hcs]
        simp
      · rw [List.mem_reverse, ← htake]
        intro hmem
        simpa using List.mem_takeWhile_imp hmem
    · cases h
  · rintro ⟨rfl, hafter⟩
    have hall : ∀ c ∈ after.reverse, (c != '1') = true := by
      intro c hc
      rw [List.mem_reverse] at hc
      simp only [bne_iff_ne, ne_eq]
      rintro rfl
      exact hafter hc
    have hrev : (before ++ '1' :: after).reverse = after.reverse ++ '1' :: before.reverse := by simp
    have htake : (after.reverse ++ '1' :: before.reverse).takeWhile (· != '1') = after.reverse := by
      rw [List.takeWhile_append_of_pos hall]
      simp
    have hdrop : (after.reverse ++ '1' :: before.reverse).dropWhile (· != '1')
        = '1' :: before.reverse := by
      rw [List.dropWhile_append_of_pos hall]
      simp
    rw [hrev, htake, hdrop]
    simp

/-- Lowering letters neither makes a separator nor hides one, and no symbol is one. -/
theorem split_of_map_toLower {cs hrp : List Char} {symbols : List Symbol}
    (h : cs.map Char.toLower = hrp ++ '1' :: symbols.map Symbol.char) :
    ∃ before after, cs = before ++ '1' :: after ∧ '1' ∉ after ∧ before.map Char.toLower = hrp ∧
      after.map Char.toLower = symbols.map Symbol.char := by
  obtain ⟨before, rest, rfl, hbefore, hrest⟩ := List.map_eq_append_iff.mp h
  obtain ⟨sep, after, rfl, hsep, hafter⟩ := List.map_eq_cons_iff.mp hrest
  obtain rfl : sep = '1' := (toLower_eq_iff (by decide)).mp hsep
  refine ⟨before, after, rfl, fun hmem => ?_, hbefore, hafter⟩
  have hsymbol := List.mem_map_of_mem (f := Char.toLower) hmem
  rw [hafter] at hsymbol
  obtain ⟨s, -, hs⟩ := List.mem_map.mp hsymbol
  exact Symbol.char_ne_separator s hs

/-- Whether characters may be a human-readable part does not depend on their case. -/
theorem isHrp_map_toLower (cs : List Char) : isHrp (cs.map Char.toLower) = isHrp cs := by
  have hrange : ∀ c : Char, (decide (33 ≤ c.toLower.toNat) && decide (c.toLower.toNat ≤ 126))
      = (decide (33 ≤ c.toNat) && decide (c.toNat ≤ 126)) := by
    intro c
    rw [toNat_toLower]
    by_cases h : c.isUpper = true
    · have := (isUpper_iff c).mp h
      rw [if_pos h]
      simp only [← Bool.decide_and, decide_eq_decide]
      omega
    · rw [if_neg h]
  simp only [isHrp, List.isEmpty_map, List.length_map, List.all_map, Function.comp_def, hrange]

/-- A text has a human-readable part and symbols exactly if it does not mix cases and in lower case is
written as they are. -/
theorem readParts_eq_ok_iff (cs hrp : List Char) (symbols : List Symbol) :
    readParts cs = .ok (hrp, symbols) ↔
      isHrp hrp = true ∧ isMixedCase cs = false ∧
        cs.map Char.toLower = hrp ++ '1' :: symbols.map Symbol.char := by
  constructor
  · intro h
    unfold readParts at h
    split at h
    · cases h
    · rename_i before after hsplit
      obtain ⟨rfl, -⟩ := (splitAtSeparator?_eq_some_iff cs before after).mp hsplit
      split at h
      · cases h
      · rename_i ss hss
        rw [Symbol.mapM_ofChar?_eq_some_iff] at hss
        split at h
        · cases h
        · rename_i hmixed
          split at h
          · rename_i hhrp
            cases h
            refine ⟨by rwa [isHrp_map_toLower], by simpa using hmixed, ?_⟩
            rw [List.map_append, List.map_cons, hss]
            rfl
          · cases h
  · rintro ⟨hhrp, hmixed, hlower⟩
    obtain ⟨before, after, rfl, hnosep, rfl, hafter⟩ := split_of_map_toLower hlower
    have hsplit := (splitAtSeparator?_eq_some_iff (before ++ '1' :: after) before after).mpr
      ⟨rfl, hnosep⟩
    unfold readParts
    rw [hsplit]
    dsimp only
    rw [(Symbol.mapM_ofChar?_eq_some_iff after symbols).mpr hafter]
    dsimp only
    rw [if_neg (by simp [hmixed]), if_pos (by rwa [← isHrp_map_toLower])]

/-- Either a character is wrong, or everything after the last separator is right and what stands before
it is no human-readable part. -/
theorem fault_of_readParts {cs : List Char} {fault : Fault} (h : readParts cs = .error fault) :
    fault = .characters ∨ fault = .hrp ∧
      ∃ before after, cs = before ++ '1' :: after ∧ '1' ∉ after ∧ isHrp before = false := by
  unfold readParts at h
  split at h
  · cases h
    exact .inl rfl
  rename_i before after hsplit
  split at h
  · cases h
    exact .inl rfl
  split at h
  · cases h
    exact .inl rfl
  split at h
  · cases h
  · rename_i hhrp
    cases h
    obtain ⟨hcs, hlast⟩ := (splitAtSeparator?_eq_some_iff cs before after).mp hsplit
    exact .inr ⟨rfl, before, after, hcs, hlast, by simpa using hhrp⟩

/-! ## The symbols of a text -/

/-- The version is the first symbol. -/
theorem payload_toNat (v : Symbol) (program : Bytes) :
    payload v.toNat program = v :: Symbol.ofBits (Bytes.bits program) := by
  rw [payload, BitVec.ofNat_toNat, BitVec.setWidth_eq]

/-- Symbols pass every check of the reader and spell a program exactly if they are the program's
payload with its checksum. -/
theorem symbols_eq_iff (hrp : List Char) (v : Symbol) (symbols : List Symbol) (program : Bytes) :
    v :: symbols = payload v.toNat program ++
        Bech32.checksum (variant v.toNat) hrp (payload v.toNat program) ↔
      ¬ (symbols.length + 1 < 6 ∨ (!Bech32.verifies (variant v.toNat) hrp (v :: symbols)) = true) ∧
        symbols.length + 1 ≠ 6 ∧ readProgram (symbols.take (symbols.length - 6)) = .ok program := by
  have hclosing := Bech32.length_checksum (variant v.toNat) hrp (payload v.toNat program)
  rw [readProgram_eq_ok_iff]
  constructor
  · intro h
    have hverifies := Bech32.verifies_checksum (variant v.toNat) hrp (payload v.toNat program)
    rw [← h] at hverifies
    have htail : symbols = Symbol.ofBits (Bytes.bits program) ++
        Bech32.checksum (variant v.toNat) hrp (payload v.toNat program) := by
      rw [payload_toNat] at h ⊢
      exact (List.cons.inj h).2
    have hlen : symbols.length = (Symbol.ofBits (Bytes.bits program)).length + 6 := by
      rw [htail, List.length_append, hclosing]
    refine ⟨?_, by omega, ?_⟩
    · rw [hverifies]
      simp
      omega
    · rw [hlen, Nat.add_sub_cancel, htail, List.take_left]
  · rintro ⟨hclosed, hsize, hprogram⟩
    -- the last six symbols are a closing of the others, of which there is one
    obtain ⟨hmany, hverifies⟩ := not_or.mp hclosed
    have hlast : (symbols.drop (symbols.length - 6)).length = 6 := by
      rw [List.length_drop]
      omega
    have hsymbols : v :: symbols
        = payload v.toNat program ++ symbols.drop (symbols.length - 6) := by
      rw [payload_toNat, ← hprogram, List.cons_append, List.take_append_drop]
    rw [hsymbols] at hverifies ⊢
    rw [(Bech32.verifies_append_iff _ _ _ hlast).mp (by simpa using hverifies)]

/-! ## Whole texts -/

/-- What a witness program is like of which there is an address. -/
structure Proper (w : WitnessProgram) : Prop where
  hrp : isHrp w.hrp.toList = true
  version : w.version ≤ 16
  length : isProgramLength w.version w.program.length = true

/-- How an address may be spelled, whatever it stands for. -/
structure WellSpelled (text : String) : Prop where
  length : (utf8 text).length ≤ maxLength
  oneCase : isMixedCase text.toList = false

/-- The text carries the witness program: it is well spelled, and in lower case it is the encoding of the
program, of whatever length this is. -/
structure Carries (text : String) (w : WitnessProgram) : Prop where
  spelled : WellSpelled text
  hrp : isHrp w.hrp.toList = true
  version : w.version ≤ 16
  lower : Text.asciiToLower text = encode w.hrp w.version w.program

/-- A text that carries a program is read up to the last check, which is on the program's length. -/
theorem decode_of_carries {text : String} {w : WitnessProgram} (h : Carries text w) :
    decode text =
      if isProgramLength w.version w.program.length then .ok w else .error .programLength := by
  have hparts : readParts text.toList = .ok (w.hrp.toList, payload w.version w.program ++
      Bech32.checksum (variant w.version) w.hrp.toList (payload w.version w.program)) := by
    refine (readParts_eq_ok_iff _ _ _).mpr ⟨h.hrp, h.spelled.oneCase, ?_⟩
    rw [← toList_asciiToLower, h.lower, toList_encode]
  -- a version up to 16 is a symbol, and the first one
  obtain ⟨v, hv⟩ : ∃ v : Symbol, v.toNat = w.version :=
    ⟨BitVec.ofNat 5 w.version, by
      have := h.version
      rw [BitVec.toNat_ofNat, Nat.mod_eq_of_lt (by omega)]⟩
  obtain ⟨symbols, hsymbols⟩ : ∃ symbols, v :: symbols = payload w.version w.program ++
      Bech32.checksum (variant w.version) w.hrp.toList (payload w.version w.program) := by
    refine ⟨Symbol.ofBits (Bytes.bits w.program) ++ Bech32.checksum (variant w.version)
      w.hrp.toList (payload w.version w.program), ?_⟩
    rw [← hv, payload_toNat, List.cons_append]
  rw [← hsymbols] at hparts
  rw [← hv] at hsymbols
  obtain ⟨hclosed, hsize, hprogram⟩ := (symbols_eq_iff _ v symbols w.program).mp hsymbols
  unfold decode
  rw [if_neg (Nat.not_lt.mpr h.spelled.length), hparts]
  dsimp only
  rw [if_neg (by rw [hv]; exact Nat.not_lt.mpr h.version), if_neg hclosed, if_neg hsize, hprogram]
  dsimp only
  rw [hv, String.ofList_toList]

/-- A text that is read up to the last check carries a program. -/
theorem exists_carries_of_decode {text : String}
    (h : (∃ w, decode text = .ok w) ∨ decode text = .error .programLength) :
    ∃ w, Carries text w := by
  have hreached : ∀ fault, decode text = .error fault → fault = .programLength := by
    rintro fault hfault
    rcases h with ⟨w, h⟩ | h
    · rw [h] at hfault
      cases hfault
    · rw [h] at hfault
      exact (Except.error.inj hfault).symm
  unfold decode at hreached
  -- one split for each check of the reader, in its order
  split at hreached
  · cases hreached _ rfl
  rename_i hlength
  split at hreached
  · rename_i hparts
    cases hreached _ rfl
    rcases fault_of_readParts hparts with h | ⟨h, -⟩ <;> cases h
  · cases hreached _ rfl
  rename_i hrp v symbols hparts
  obtain ⟨hhrp, hmixed, hlower⟩ := (readParts_eq_ok_iff _ _ _).mp hparts
  dsimp only at hreached
  split at hreached
  · cases hreached _ rfl
  rename_i hversion
  split at hreached
  · cases hreached _ rfl
  rename_i hclosed
  split at hreached
  · cases hreached _ rfl
  rename_i hsize
  split at hreached
  · rename_i hprogram
    cases hreached _ rfl
    cases fault_of_readProgram hprogram
  rename_i program hprogram
  refine ⟨⟨String.ofList hrp, v.toNat, program⟩, ⟨Nat.le_of_not_lt hlength, hmixed⟩,
    by rwa [String.toList_ofList], Nat.le_of_not_lt hversion, ?_⟩
  rw [← String.toList_inj, toList_asciiToLower, hlower, toList_encode, String.toList_ofList,
    (symbols_eq_iff hrp v symbols program).mpr ⟨hclosed, hsize, hprogram⟩]

/-- An accepted text is well spelled, and in lower case it is the encoding of what it stands for. -/
theorem lower_eq_encode_of_decode {text : String} {w : WitnessProgram} (h : decode text = .ok w) :
    WellSpelled text ∧ Proper w ∧
      Text.asciiToLower text = encode w.hrp w.version w.program := by
  obtain ⟨u, hu⟩ := exists_carries_of_decode (.inl ⟨w, h⟩)
  rw [decode_of_carries hu] at h
  split at h
  · rename_i hadmitted
    cases h
    exact ⟨hu.spelled, ⟨hu.hrp, hu.version, hadmitted⟩, hu.lower⟩
  · cases h

/-- A well spelled text that is an encoding in lower case is accepted as what is encoded. -/
theorem decode_of_lower_eq_encode {text : String} {w : WitnessProgram} (hspelled : WellSpelled text)
    (hproper : Proper w) (hlower : Text.asciiToLower text = encode w.hrp w.version w.program) :
    decode text = .ok w := by
  rw [decode_of_carries ⟨hspelled, hproper.hrp, hproper.version, hlower⟩, if_pos hproper.length]

/-- A text is the address of a witness program exactly if it is well spelled, there is an address of
the program, and the text in lower case is that address. -/
theorem decode_eq_ok_iff (text : String) (w : WitnessProgram) :
    decode text = .ok w ↔ WellSpelled text ∧ Proper w ∧
      Text.asciiToLower text = encode w.hrp w.version w.program :=
  ⟨lower_eq_encode_of_decode, fun ⟨hspelled, hproper, hlower⟩ =>
    decode_of_lower_eq_encode hspelled hproper hlower⟩

end Segwit

end SeedWallet
