import SeedWallet.Proofs.HumanReadableParts

/-!
# What the faults of segwit texts say

A text that is refused is refused with the length of its program, its version or its human-readable part,
and what is reported is read off the text in another way than the reader reads it: the length is worked
out from the number of characters, and the human-readable part is lowered as any text is, be it within
ASCII or not. The two ways agree wherever the fault is reported.

- `Text.lt_of_toLower`: a text that is lowered to ASCII is within ASCII, but for the Kelvin sign.
- `Segwit.Carries.unique`: a text carries one program.
- `Address.programLengthHint_of_carries`: the length that is worked out is the program's.
- `Address.isHrp_of_toLower_mem`: what is lowered to a known human-readable part is one to the reader.
- `Address.decodeSegwit_eq_invalidProgramLength_iff`, `Address.split_of_unsupportedWitnessVersion`,
  `Address.split_of_invalidHrp`: what the text is like in the three cases.
- `Address.decodeSegwit_faults_hold`: what is reported is so.
-/

namespace SeedWallet

/-! ## Lower case beyond ASCII -/

namespace Text

/-- The lower-case forms of characters beyond ASCII are beyond ASCII, but for that of the Kelvin sign. -/
theorem beyond_ascii_of_mem_caseRuns : ∀ r ∈ caseRuns,
    (r.first = 0x212a ∧ r.last = 0x212a ∧ r.shift = -8383) ∨
      (0x80 ≤ r.first + r.shift ∧ (r.last + r.shift < 0xd800 ∨
        (0xe000 ≤ r.first + r.shift ∧ r.last + r.shift < 0x110000))) := by
  decide +kernel

/-- A character beyond ASCII leaves one beyond ASCII behind, or it is the Kelvin sign. -/
theorem exists_mem_lowerChar {c : Char} (h : 0x80 ≤ c.toNat) :
    ∃ d ∈ lowerChar c, 0x80 ≤ d.toNat ∨ d = 'k' := by
  unfold lowerChar
  dsimp only
  rw [if_neg (by omega)]
  split
  · exact ⟨Char.ofNat 0x307, by simp, .inl (by decide)⟩
  split
  · rename_i r hfind
    have hin := List.find?_some hfind
    simp only [Bool.and_eq_true, decide_eq_true_eq] at hin
    obtain ⟨⟨hfirst, hlast⟩, -⟩ := hin
    refine ⟨_, List.mem_singleton_self _, ?_⟩
    rcases beyond_ascii_of_mem_caseRuns r (List.mem_of_find?_eq_some hfind) with
      ⟨hf, hl, hs⟩ | ⟨hlow, hvalid⟩
    · right
      have hkelvin : ((c.toNat : Int) + r.shift).toNat = 107 := by omega
      rw [hkelvin]
    · left
      generalize hm : ((c.toNat : Int) + r.shift).toNat = m
      have hm' : m.isValidChar := by
        rw [Nat.isValidChar]
        omega
      rw [Char.toNat_ofNat, if_pos hm']
      omega
  · exact ⟨c, List.mem_singleton_self c, .inl h⟩

theorem exists_mem_lowerFrom {c : Char} (h : 0x80 ≤ c.toNat) {cs : List Char} (hc : c ∈ cs)
    (before : List Char) : ∃ d ∈ lowerFrom before cs, 0x80 ≤ d.toNat ∨ d = 'k' := by
  induction cs generalizing before with
  | nil => cases hc
  | cons e es ih =>
    rw [lowerFrom]
    rcases List.mem_cons.mp hc with rfl | hes
    · split
      · refine ⟨_, List.mem_append_left _ (List.mem_singleton_self _), .inl ?_⟩
        split <;> decide
      · obtain ⟨d, hd, hform⟩ := exists_mem_lowerChar h
        exact ⟨d, List.mem_append_left _ hd, hform⟩
    · obtain ⟨d, hd, hform⟩ := ih hes (e :: before)
      exact ⟨d, List.mem_append_right _ hd, hform⟩

/-- A text that is lowered to characters of ASCII other than k is within ASCII. -/
theorem lt_of_toLower {s : String} (h : ∀ d ∈ (toLower s).toList, d.toNat < 0x80 ∧ d ≠ 'k') :
    ∀ c ∈ s.toList, c.toNat < 0x80 := by
  intro c hc
  by_contra hbeyond
  obtain ⟨d, hd, hform⟩ := exists_mem_lowerFrom (Nat.le_of_not_lt hbeyond) hc []
  obtain ⟨hascii, hk⟩ := h d (by rwa [toLower, String.toList_ofList])
  rcases hform with hform | hform
  · omega
  · exact hk hform

end Text

/-! ## The faults of the reader -/

namespace Segwit

/-- A text carries one program. -/
theorem Carries.unique {text : String} {w u : WitnessProgram} (hw : Carries text w)
    (hu : Carries text u) : w = u := by
  have hnosep : ∀ symbols : List Symbol, '1' ∉ symbols.map Symbol.char := by
    intro symbols hmem
    obtain ⟨s, -, hs⟩ := List.mem_map.mp hmem
    exact Symbol.char_ne_separator s hs
  -- there is one last separator, and of the symbols after it the last six are the checksum
  have hsplit := (splitAtSeparator?_eq_some_iff (Text.asciiToLower text).toList _ _).mpr
    ⟨by rw [hw.lower, toList_encode], hnosep _⟩
  have hsplit' := (splitAtSeparator?_eq_some_iff (Text.asciiToLower text).toList _ _).mpr
    ⟨by rw [hu.lower, toList_encode], hnosep _⟩
  rw [hsplit'] at hsplit
  obtain ⟨hhrp, hdata⟩ := Prod.mk.inj (Option.some.inj hsplit)
  obtain ⟨hpayload, -⟩ :=
    List.append_inj' (List.map_injective_iff.mpr Symbol.char_injective hdata)
      (by rw [Bech32.length_checksum, Bech32.length_checksum])
  obtain ⟨hversion, hsymbols⟩ := List.cons.inj hpayload
  have hprogram := readProgram_ofBits w.program
  rw [← hsymbols, readProgram_ofBits] at hprogram
  have hnumber := congrArg BitVec.toNat hversion
  rw [BitVec.toNat_ofNat, BitVec.toNat_ofNat, Nat.mod_eq_of_lt (by have := hu.version; omega),
    Nat.mod_eq_of_lt (by have := hw.version; omega)] at hnumber
  cases w
  cases u
  cases hprogram
  cases hnumber
  cases String.toList_inj.mp hhrp
  rfl

/-- A fault is one of the parts, or a version above 16, or it is found later and says nothing of version
and human-readable part. -/
theorem fault_cases {text : String} {fault : Fault} (h : decode text = .error fault) :
    readParts text.toList = .error fault ∨
      (∃ hrp symbol symbols, readParts text.toList = .ok (hrp, symbol :: symbols) ∧
        16 < symbol.toNat ∧ fault = .version symbol.toNat) ∨
      (fault ≠ .hrp ∧ ∀ v, fault ≠ .version v) := by
  unfold decode at h
  split at h
  · cases h
    exact .inr (.inr ⟨nofun, nofun⟩)
  split at h
  · rename_i hparts
    cases h
    exact .inl hparts
  · cases h
    exact .inr (.inr ⟨nofun, nofun⟩)
  rename_i hrp symbol symbols hparts
  dsimp only at h
  split at h
  · rename_i hlarge
    cases h
    exact .inr (.inl ⟨hrp, symbol, symbols, hparts, hlarge, rfl⟩)
  right
  right
  split at h
  · cases h
    exact ⟨nofun, nofun⟩
  split at h
  · cases h
    exact ⟨nofun, nofun⟩
  split at h
  · rename_i hprogram
    cases h
    cases fault_of_readProgram hprogram
    exact ⟨nofun, nofun⟩
  split at h
  · cases h
  · cases h
    exact ⟨nofun, nofun⟩

/-- A version is refused if it is above 16. It is the first symbol after the last separator. -/
theorem split_of_version {text : String} {v : Nat} (h : decode text = .error (.version v)) :
    ∃ before c after symbol, text.toList = before ++ '1' :: c :: after ∧ '1' ∉ c :: after ∧
      Symbol.ofChar? c = some symbol ∧ symbol.toNat = v ∧ 16 < v := by
  rcases fault_cases h with hparts | ⟨hrp, symbol, symbols, hparts, hlarge, hfault⟩ | ⟨-, hother⟩
  · rcases fault_of_readParts hparts with hfault | ⟨hfault, -⟩ <;> cases hfault
  · cases hfault
    obtain ⟨-, -, hlower⟩ := (readParts_eq_ok_iff _ _ _).mp hparts
    obtain ⟨before, data, hsplit, hlast, -, hdata⟩ := split_of_map_toLower hlower
    obtain ⟨c, after, rfl, hc, -⟩ := List.map_eq_cons_iff.mp hdata
    exact ⟨before, c, after, symbol, hsplit, hlast, (Symbol.ofChar?_eq_some_iff c symbol).mpr hc, rfl,
      hlarge⟩
  · exact absurd rfl (hother v)

/-- What stands before the last separator is refused if it is no human-readable part. -/
theorem split_of_hrp {text : String} (h : decode text = .error .hrp) :
    ∃ before after, text.toList = before ++ '1' :: after ∧ '1' ∉ after ∧ isHrp before = false := by
  rcases fault_cases h with hparts | ⟨_, _, _, -, -, hfault⟩ | ⟨hother, -⟩
  · rcases fault_of_readParts hparts with hfault | ⟨-, hsplit⟩
    · cases hfault
    · exact hsplit
  · cases hfault
  · exact absurd rfl hother

end Segwit

/-! ## The faults of addresses -/

namespace Address

open Segwit

/-- The length that the number of characters gives is the program's, as padding and checksum are right
when it is asked for. -/
theorem programLengthHint_of_carries {address : String} {w : WitnessProgram} (h : Carries address w) :
    programLengthHint address = w.program.length := by
  have hlower := h.lower
  rw [← String.toList_inj, toList_asciiToLower, toList_encode] at hlower
  obtain ⟨before, data, hsplit, hlast, -, hdata⟩ := split_of_map_toLower hlower
  have hascii : ∀ c ∈ (String.ofList data).toList, c.toNat < 0x80 := by
    intro c hc
    rw [String.toList_ofList] at hc
    have hsymbol := List.mem_map_of_mem (f := Char.toLower) hc
    rw [hdata] at hsymbol
    obtain ⟨s, -, hs⟩ := List.mem_map.mp hsymbol
    have hsmall := Symbol.toNat_char_lt s
    rw [hs, toNat_toLower] at hsmall
    split at hsmall <;> omega
  have hlength := congrArg List.length hdata
  rw [List.length_map, List.length_map, List.length_append, payload, List.length_cons,
    Symbol.length_ofBits, Bytes.length_bits, Bech32.length_checksum] at hlength
  rw [programLengthHint, (splitAtSeparator?_eq_some_iff _ _ _).mpr ⟨hsplit, hlast⟩]
  dsimp only
  rw [length_utf8_of_ascii hascii, String.toList_ofList, hlength]
  omega

/-- A text that is no address has a fault of the reader, or it is of an unknown network or of a later
version. -/
theorem error_cases_of_decodeSegwit {address : String} {e : WalletError}
    (h : decodeSegwit address = .error e) :
    (∃ fault, decode address = .error fault ∧ e = segwitError address fault) ∨
      ∃ w, decode address = .ok w ∧
        (w.hrp ∉ knownHrps ∧ e = .invalidHrp w.hrp ∨
          w.version ≠ 0 ∧ e = .unsupportedWitnessVersion (UInt8.ofNat w.version)) := by
  unfold decodeSegwit at h
  split at h
  · rename_i fault hdecode
    cases h
    exact .inl ⟨fault, hdecode, rfl⟩
  rename_i w hdecode
  refine .inr ⟨w, hdecode, ?_⟩
  split at h
  · rename_i hhrp
    cases h
    exact .inl ⟨hhrp, rfl⟩
  split at h
  · rename_i hversion
    cases h
    exact .inr ⟨hversion, rfl⟩
  -- the lengths of version zero have been looked at by the reader
  rename_i hversion
  have hlength := ((decode_eq_ok_iff address w).mp hdecode).2.1.length
  rw [not_not.mp hversion, isProgramLength_zero_iff] at hlength
  split at h
  · omega
  · cases h

/-- A text that carries a program of a length that its version does not admit is refused with that
length, and no other text is refused so. -/
theorem decodeSegwit_eq_invalidProgramLength_iff (address : String) (n : Nat) :
    decodeSegwit address = .error (.invalidProgramLength n) ↔
      ∃ w, Carries address w ∧ isProgramLength w.version w.program.length = false ∧
        w.program.length = n := by
  constructor
  · intro h
    rcases error_cases_of_decodeSegwit h with ⟨fault, hdecode, hfault⟩ | ⟨w, -, h | h⟩
    · cases fault with
      | programLength =>
        obtain ⟨w, hw⟩ := exists_carries_of_decode (.inr hdecode)
        rw [segwitError, programLengthHint_of_carries hw] at hfault
        rw [decode_of_carries hw] at hdecode
        split at hdecode
        · cases hdecode
        · rename_i hlength
          cases hfault
          exact ⟨w, hw, by simpa using hlength, rfl⟩
      | _ => cases hfault
    · cases h.2
    · cases h.2
  · rintro ⟨w, hw, hlength, rfl⟩
    have hdecode := decode_of_carries hw
    rw [if_neg (by simp [hlength])] at hdecode
    rw [decodeSegwit, hdecode]
    dsimp only
    rw [segwitError, programLengthHint_of_carries hw]

/-- The version that is refused is the first symbol after the last separator, and not zero. -/
theorem split_of_unsupportedWitnessVersion {address : String} {v : UInt8}
    (h : decodeSegwit address = .error (.unsupportedWitnessVersion v)) :
    ∃ before c after symbol, address.toList = before ++ '1' :: c :: after ∧ '1' ∉ c :: after ∧
      Symbol.ofChar? c = some symbol ∧ v.toNat = symbol.toNat ∧ v ≠ 0 := by
  -- either way it is a symbol other than zero, and a byte holds a symbol
  suffices ∃ before c after symbol, address.toList = before ++ '1' :: c :: after ∧
      '1' ∉ c :: after ∧ Symbol.ofChar? c = some symbol ∧ symbol.toNat ≠ 0 ∧
      v = UInt8.ofNat symbol.toNat by
    obtain ⟨before, c, after, symbol, hsplit, hlast, hsymbol, hzero, rfl⟩ := this
    have hlt := symbol.isLt
    have hv : (UInt8.ofNat symbol.toNat).toNat = symbol.toNat := by
      rw [UInt8.toNat_ofNat', Nat.mod_eq_of_lt (by omega)]
    refine ⟨before, c, after, symbol, hsplit, hlast, hsymbol, hv, fun h0 => hzero ?_⟩
    rw [← hv, h0]
    rfl
  rcases error_cases_of_decodeSegwit h with ⟨fault, hdecode, hfault⟩ | ⟨w, hdecode, h | h⟩
  · cases fault with
    | version n =>
      cases hfault
      obtain ⟨before, c, after, symbol, hsplit, hlast, hsymbol, rfl, hlarge⟩ :=
        split_of_version hdecode
      exact ⟨before, c, after, symbol, hsplit, hlast, hsymbol, by omega, rfl⟩
    | _ => cases hfault
  · cases h.2
  · obtain ⟨hzero, hv⟩ := h
    cases hv
    obtain ⟨before, c, after, hsplit, hlast, -, hc⟩ := exists_split_of_decode hdecode
    have hversion := ((decode_eq_ok_iff address w).mp hdecode).2.1.version
    have hnumber : (BitVec.ofNat 5 w.version).toNat = w.version := by
      rw [BitVec.toNat_ofNat, Nat.mod_eq_of_lt (by omega)]
    exact ⟨before, c, after, _, hsplit, hlast, (Symbol.ofChar?_eq_some_iff c _).mpr hc,
      by rwa [hnumber], by rw [hnumber]⟩

/-- What is lowered to a known human-readable part may be one. -/
theorem isHrp_of_toLower_mem {hrp : List Char} (h : Text.toLower (String.ofList hrp) ∈ knownHrps) :
    isHrp hrp = true := by
  have hletters : ∀ d ∈ (Text.toLower (String.ofList hrp)).toList, d.toNat < 0x80 ∧ d ≠ 'k' := by
    rcases eq_of_mem_knownHrps h with hknown | hknown | hknown <;> rw [hknown] <;> simp
  have hproper := isHrp_of_mem_knownHrps h
  rwa [Text.toLower_of_ascii (Text.lt_of_toLower hletters), toList_asciiToLower,
    String.toList_ofList, isHrp_map_toLower] at hproper

/-- The human-readable part that is refused is the text before the last separator in lower case, and
unknown. -/
theorem split_of_invalidHrp {address : String} {hrp : String}
    (h : decodeSegwit address = .error (.invalidHrp hrp)) :
    ∃ before after, address.toList = before ++ '1' :: after ∧ '1' ∉ after ∧
      hrp = Text.toLower (String.ofList before) ∧ hrp ∉ knownHrps := by
  rcases error_cases_of_decodeSegwit h with ⟨fault, hdecode, hfault⟩ | ⟨w, hdecode, h | h⟩
  · cases fault with
    | hrp =>
      obtain ⟨before, after, hsplit, hlast, hbefore⟩ := split_of_hrp hdecode
      have htext : hrpText address = Text.toLower (String.ofList before) := by
        rw [hrpText, (splitAtSeparator?_eq_some_iff _ _ _).mpr ⟨hsplit, hlast⟩]
      rw [segwitError, htext] at hfault
      cases hfault
      refine ⟨before, after, hsplit, hlast, rfl, fun hknown => ?_⟩
      rw [isHrp_of_toLower_mem hknown] at hbefore
      cases hbefore
    | _ => cases hfault
  · obtain ⟨hunknown, hhrp⟩ := h
    cases hhrp
    obtain ⟨before, c, after, hsplit, hlast, hbefore, -⟩ := exists_split_of_decode hdecode
    refine ⟨before, c :: after, hsplit, hlast, ?_, hunknown⟩
    -- an accepted human-readable part is within ASCII, where both ways of lowering agree
    have hhrp := ((decode_eq_ok_iff address w).mp hdecode).2.1.hrp
    rw [← hbefore, String.toList_ofList, isHrp_map_toLower] at hhrp
    rw [Text.toLower_of_ascii (by rw [String.toList_ofList]; exact toNat_lt_of_isHrp hhrp),
      Text.asciiToLower, String.toList_ofList, hbefore]
  · cases h.2

/-- **What is reported of a segwit text is so.** A length that is refused is that of the one witness
program that the text carries, and neither of the two lengths of version zero; a text that carries a
program of a length that its version does not admit is refused with it. A version that is refused is the
first symbol after the last separator, and not zero. A human-readable part that is refused is the text
before the last separator in lower case, and that of no known network. -/
theorem decodeSegwit_faults_hold :
    (∀ s n, decodeSegwit s = .error (.invalidProgramLength n) →
      ∃ w, Carries s w ∧ (∀ u, Carries s u → u = w) ∧ w.program.length = n ∧ n ≠ 20 ∧ n ≠ 32) ∧
    (∀ s w, Carries s w → isProgramLength w.version w.program.length = false →
      decodeSegwit s = .error (.invalidProgramLength w.program.length)) ∧
    (∀ s v, decodeSegwit s = .error (.unsupportedWitnessVersion v) →
      ∃ before c after symbol, s.toList = before ++ '1' :: c :: after ∧ '1' ∉ c :: after ∧
        Symbol.ofChar? c = some symbol ∧ v.toNat = symbol.toNat ∧ v ≠ 0) ∧
    (∀ s hrp, decodeSegwit s = .error (.invalidHrp hrp) →
      ∃ before after, s.toList = before ++ '1' :: after ∧ '1' ∉ after ∧
        hrp = Text.toLower (String.ofList before) ∧ hrp ∉ ["bc", "tb", "bcrt"]) := by
  refine ⟨fun s n h => ?_, fun s w hw hlength => ?_, fun s v => split_of_unsupportedWitnessVersion,
    fun s hrp => split_of_invalidHrp⟩
  · obtain ⟨w, hw, hlength, rfl⟩ := (decodeSegwit_eq_invalidProgramLength_iff s n).mp h
    have hneither : w.program.length ≠ 20 ∧ w.program.length ≠ 32 := by
      rw [isProgramLength] at hlength
      split at hlength
      · simpa using hlength
      · rw [decide_eq_false_iff_not] at hlength
        omega
    exact ⟨w, hw, fun u hu => hu.unique hw, rfl, hneither⟩
  · exact (decodeSegwit_eq_invalidProgramLength_iff s _).mpr ⟨w, hw, hlength, rfl⟩

/-- A program that is too short, a later version, and a prefix with a capital beyond ASCII. -/
theorem decodeSegwit_faults_hold_three :
    (decodeSegwit "bc1qxvenxvenxvenxvenxvenxvenxvgtedxy" = .error (.invalidProgramLength 16) ∧
      ∃ w, Carries "bc1qxvenxvenxvenxvenxvenxvenxvgtedxy" w ∧ w.program.length = 16) ∧
    (decodeSegwit "tb1pxvenxvenxvenxvenxvenxvenxvenxvenxvenxvenxvenxvenxves9ugrsc" =
        .error (.unsupportedWitnessVersion 1) ∧
      ∃ before c after symbol,
        "tb1pxvenxvenxvenxvenxvenxvenxvenxvenxvenxvenxvenxvenxves9ugrsc".toList =
          before ++ '1' :: c :: after ∧
        Symbol.ofChar? c = some symbol ∧ (1 : UInt8).toNat = symbol.toNat) ∧
    (decodeSegwit "ÇA1Q" = .error (.invalidHrp "ça") ∧
      ∃ before after, "ÇA1Q".toList = before ++ '1' :: after ∧
        "ça" = Text.toLower (String.ofList before) ∧ "ça" ∉ ["bc", "tb", "bcrt"]) := by
  obtain ⟨hlength, -, hversion, hhrp⟩ := decodeSegwit_faults_hold
  have hshort : decodeSegwit "bc1qxvenxvenxvenxvenxvenxvenxvgtedxy" =
      .error (.invalidProgramLength 16) := by decide +kernel
  have hlater : decodeSegwit "tb1pxvenxvenxvenxvenxvenxvenxvenxvenxvenxvenxvenxvenxves9ugrsc" =
      .error (.unsupportedWitnessVersion 1) := by decide +kernel
  have hforeign : decodeSegwit "ÇA1Q" = .error (.invalidHrp "ça") := by decide +kernel
  obtain ⟨w, hw, -, hsize, -⟩ := hlength _ _ hshort
  obtain ⟨before, c, after, symbol, hsplit, -, hsymbol, hnumber, -⟩ := hversion _ _ hlater
  obtain ⟨before', after', hsplit', -, hlower, hunknown⟩ := hhrp _ _ hforeign
  exact ⟨⟨hshort, w, hw, hsize⟩, ⟨hlater, before, c, after, symbol, hsplit, hsymbol, hnumber⟩,
    ⟨hforeign, before', after', hsplit', hlower, hunknown⟩⟩

end Address

end SeedWallet
