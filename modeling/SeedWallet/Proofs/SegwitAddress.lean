import SeedWallet.Address
import SeedWallet.Proofs.Segwit

/-!
# Segwit addresses are canonical

The encoding of a program under the human-readable part of a known network consists of small letters,
digits and the separator, so it is short enough and in one case, and so is the same text in capitals.
These two spellings are the only ones: whatever else is accepted as a segwit text is of another
network, version or length.

- `Segwit.eq_encode_or_upper_of_decode`, `Segwit.decode_of_eq_encode_or_upper`: the two spellings of
  any witness program.
- `Address.decodeSegwit_eq_ok_iff`: the two spellings of an address of a known network.
- `Address.decodeSegwit_canonical`: what follows for reading and writing addresses.
-/

namespace SeedWallet

namespace Segwit

/-! ## Spellings of a witness program -/

/-- An accepted text is the encoding of what it stands for, or the same in capitals. -/
theorem eq_encode_or_upper_of_decode {text : String} {w : WitnessProgram}
    (h : decode text = .ok w) :
    text = encode w.hrp w.version w.program ∨
      text = Text.asciiToUpper (encode w.hrp w.version w.program) := by
  obtain ⟨hspelled, -, hlower⟩ := (decode_eq_ok_iff text w).mp h
  rcases eq_asciiToLower_or_asciiToUpper hspelled.oneCase with hcase | hcase
  · exact .inl (hcase.trans hlower)
  · right
    rw [← hlower, asciiToUpper_asciiToLower]
    exact hcase

/-- An encoding under a human-readable part in lower case is in lower case. -/
theorem asciiToLower_encode {hrp : String} (h : hrp.toList.map Char.toLower = hrp.toList)
    (version : Nat) (program : Bytes) :
    Text.asciiToLower (encode hrp version program) = encode hrp version program := by
  rw [← String.toList_inj, toList_asciiToLower, toList_encode, List.map_append, List.map_cons, h,
    List.map_map]
  have hsep : Char.toLower '1' = '1' := by decide
  rw [hsep]
  congr 2
  exact List.map_congr_left fun s _ => Symbol.toLower_char s

/-- Programs of version zero have one of two lengths. -/
theorem isProgramLength_zero_iff (n : Nat) : isProgramLength 0 n = true ↔ n = 20 ∨ n = 32 := by
  rw [isProgramLength, if_pos rfl, Bool.or_eq_true, beq_iff_eq, beq_iff_eq]

/-- The characters of a human-readable part show, so that they are in ASCII. -/
theorem toNat_lt_of_isHrp {cs : List Char} (h : isHrp cs = true) : ∀ c ∈ cs, c.toNat < 0x80 := by
  intro c hc
  rw [isHrp, Bool.and_eq_true, List.all_eq_true] at h
  have hshown := h.2 c hc
  rw [Bool.and_eq_true, decide_eq_true_eq, decide_eq_true_eq] at hshown
  omega

/-- An encoding stays within ASCII. -/
theorem toNat_lt_of_mem_encode {hrp : String} (h : isHrp hrp.toList = true) {version : Nat}
    {program : Bytes} : ∀ c ∈ (encode hrp version program).toList, c.toNat < 0x80 := by
  intro c hc
  rw [toList_encode, List.mem_append, List.mem_cons, List.mem_map] at hc
  rcases hc with hc | rfl | ⟨s, -, rfl⟩
  · exact toNat_lt_of_isHrp h c hc
  · decide
  · exact Symbol.toNat_char_lt s

/-- A short text of small letters, digits and signs of ASCII is well spelled. -/
theorem wellSpelled_of_lower {e : String} (hlower : Text.asciiToLower e = e)
    (hascii : ∀ c ∈ e.toList, c.toNat < 0x80) (hshort : e.toList.length ≤ maxLength) :
    WellSpelled e where
  length := by rwa [length_utf8_of_ascii hascii]
  oneCase := by
    rw [isMixedCase_eq_false_iff, ← toList_asciiToLower, hlower]
    exact .inl rfl

/-- So is it in capitals. -/
theorem wellSpelled_asciiToUpper {e : String} (hascii : ∀ c ∈ e.toList, c.toNat < 0x80)
    (hshort : e.toList.length ≤ maxLength) : WellSpelled (Text.asciiToUpper e) where
  length := by
    rw [length_utf8_of_ascii, toList_asciiToUpper, List.length_map]
    · exact hshort
    · intro c hc
      rw [toList_asciiToUpper] at hc
      obtain ⟨d, hd, rfl⟩ := List.mem_map.mp hc
      exact Nat.lt_of_le_of_lt (toNat_toUpper_le d) (hascii d hd)
  oneCase := by
    rw [isMixedCase_eq_false_iff, toList_asciiToUpper]
    right
    rw [List.map_map]
    exact List.map_congr_left fun c _ => (Char.toUpper_toUpper_eq_toUpper c).symm

/-- The encoding of a program and the same in capitals are accepted as the program, if they are not
too long. -/
theorem decode_of_eq_encode_or_upper {text : String} {w : WitnessProgram} (hproper : Proper w)
    (hsmall : w.hrp.toList.map Char.toLower = w.hrp.toList)
    (hshort : w.hrp.toList.length + (8 * w.program.length + 4) / 5 + 8 ≤ maxLength)
    (h : text = encode w.hrp w.version w.program ∨
      text = Text.asciiToUpper (encode w.hrp w.version w.program)) :
    decode text = .ok w := by
  have hlower := asciiToLower_encode hsmall w.version w.program
  have hascii : ∀ c ∈ (encode w.hrp w.version w.program).toList, c.toNat < 0x80 :=
    toNat_lt_of_mem_encode hproper.hrp
  rw [← length_toList_encode] at hshort
  rcases h with rfl | rfl
  · exact decode_of_lower_eq_encode (wellSpelled_of_lower hlower hascii hshort) hproper hlower
  · refine decode_of_lower_eq_encode (wellSpelled_asciiToUpper hascii hshort) hproper ?_
    rw [asciiToLower_asciiToUpper, hlower]

end Segwit

/-! ## Addresses of the known networks -/

namespace Address

open Segwit

theorem eq_of_mem_knownHrps {hrp : String} (h : hrp ∈ knownHrps) :
    hrp = "bc" ∨ hrp = "tb" ∨ hrp = "bcrt" := by
  simpa [knownHrps] using h

theorem map_toLower_of_mem_knownHrps {hrp : String} (h : hrp ∈ knownHrps) :
    hrp.toList.map Char.toLower = hrp.toList := by
  rcases eq_of_mem_knownHrps h with rfl | rfl | rfl <;> decide

theorem isHrp_of_mem_knownHrps {hrp : String} (h : hrp ∈ knownHrps) :
    isHrp hrp.toList = true := by
  rcases eq_of_mem_knownHrps h with rfl | rfl | rfl <;> decide

theorem length_of_mem_knownHrps {hrp : String} (h : hrp ∈ knownHrps) :
    2 ≤ hrp.toList.length ∧ hrp.toList.length ≤ 4 := by
  rcases eq_of_mem_knownHrps h with rfl | rfl | rfl <;> decide

/-- Beyond being segwit texts, addresses are of a known network, of version zero and of one of its two
lengths. -/
theorem decodeSegwit_eq_ok_iff_decode (address : String) (w : WitnessProgram) :
    decodeSegwit address = .ok w ↔ Segwit.decode address = .ok w ∧
      w.hrp ∈ knownHrps ∧ w.version = 0 ∧ (w.program.length = 20 ∨ w.program.length = 32) := by
  constructor
  · intro h
    unfold decodeSegwit at h
    split at h
    · cases h
    rename_i u hdecode
    split at h
    · cases h
    rename_i hhrp
    split at h
    · cases h
    rename_i hversion
    split at h
    · cases h
    rename_i hlength
    cases h
    exact ⟨hdecode, not_not.mp hhrp, not_not.mp hversion, by omega⟩
  · rintro ⟨hdecode, hhrp, hversion, hlength⟩
    unfold decodeSegwit
    rw [hdecode]
    dsimp only
    rw [if_neg (not_not.mpr hhrp), if_neg (not_not.mpr hversion), if_neg (by omega)]

/-- An address of a known network is the encoding of its program or the same in capitals, and both of
them are accepted. -/
theorem decodeSegwit_eq_ok_iff (address : String) (w : WitnessProgram) :
    decodeSegwit address = .ok w ↔
      (w.hrp ∈ knownHrps ∧ w.version = 0 ∧ (w.program.length = 20 ∨ w.program.length = 32)) ∧
        (address = encode w.hrp w.version w.program ∨
          address = Text.asciiToUpper (encode w.hrp w.version w.program)) := by
  rw [decodeSegwit_eq_ok_iff_decode]
  constructor
  · rintro ⟨hdecode, hknown⟩
    exact ⟨hknown, eq_encode_or_upper_of_decode hdecode⟩
  · rintro ⟨⟨hhrp, hversion, hlength⟩, hspelling⟩
    refine ⟨?_, hhrp, hversion, hlength⟩
    have hhrp4 := length_of_mem_knownHrps hhrp
    have hadmitted : isProgramLength w.version w.program.length = true := by
      rw [hversion]
      exact (isProgramLength_zero_iff _).mpr hlength
    refine decode_of_eq_encode_or_upper ⟨isHrp_of_mem_knownHrps hhrp, by omega, hadmitted⟩
      (map_toLower_of_mem_knownHrps hhrp) ?_ hspelling
    rw [maxLength]
    omega

/-- The shortest address has 42 characters. -/
theorem length_of_decodeSegwit {address : String} {w : WitnessProgram}
    (h : decodeSegwit address = .ok w) : 42 ≤ address.toList.length := by
  obtain ⟨⟨hhrp, -, hlength⟩, hspelling⟩ := (decodeSegwit_eq_ok_iff address w).mp h
  have hhrp2 := length_of_mem_knownHrps hhrp
  have hencode := length_toList_encode w.hrp w.version w.program
  rcases hspelling with rfl | rfl
  · omega
  · rw [toList_asciiToUpper, List.length_map]
    omega

/-- Version zero is written exactly for programs of its two lengths. -/
theorem encodeSegwit_eq_ok_iff (hrp : String) (program : Bytes) (address : String) :
    encodeSegwit hrp program = .ok address ↔
      (program.length = 20 ∨ program.length = 32) ∧ address = encode hrp 0 program := by
  rw [encodeSegwit, ← isProgramLength_zero_iff]
  split
  · rename_i h
    simp [h, eq_comm]
  · rename_i h
    simp [h]

/-- **Segwit addresses are canonical**: a text is accepted exactly if it is what is written for a
program of 20 or 32 bytes under a known human-readable part, or the same in capitals. So an accepted
text is in one case, writing what it stands for gives it back in lower case, and two texts that stand
for the same differ in case only. -/
theorem decodeSegwit_canonical :
    (∀ address hrp program, decodeSegwit address = .ok ⟨hrp, 0, program⟩ ↔
      hrp ∈ ["bc", "tb", "bcrt"] ∧ (program.length = 20 ∨ program.length = 32) ∧
        ∃ e, encodeSegwit hrp program = .ok e ∧ (address = e ∨ address = Text.asciiToUpper e)) ∧
    (∀ address w, decodeSegwit address = .ok w →
      w.version = 0 ∧ encodeSegwit w.hrp w.program = .ok (Text.asciiToLower address) ∧
        (address = Text.asciiToLower address ∨ address = Text.asciiToUpper address)) ∧
    (∀ a b w, decodeSegwit a = .ok w → decodeSegwit b = .ok w →
      Text.asciiToLower a = Text.asciiToLower b) := by
  refine ⟨fun address hrp program => ?_, fun address w h => ?_, fun a b w ha hb => ?_⟩
  · -- the two spellings, with the encoding named
    rw [decodeSegwit_eq_ok_iff]
    constructor
    · rintro ⟨⟨hhrp, -, hlength⟩, hspelling⟩
      exact ⟨hhrp, hlength, _, (encodeSegwit_eq_ok_iff hrp program _).mpr ⟨hlength, rfl⟩, hspelling⟩
    · rintro ⟨hhrp, hlength, e, hencode, hspelling⟩
      obtain ⟨-, rfl⟩ := (encodeSegwit_eq_ok_iff hrp program e).mp hencode
      exact ⟨⟨hhrp, rfl, hlength⟩, hspelling⟩
  · -- writing again
    obtain ⟨hdecode, -, hversion, hlength⟩ := (decodeSegwit_eq_ok_iff_decode address w).mp h
    obtain ⟨hspelled, -, hlower⟩ := (decode_eq_ok_iff address w).mp hdecode
    refine ⟨hversion, ?_, eq_asciiToLower_or_asciiToUpper hspelled.oneCase⟩
    rw [encodeSegwit_eq_ok_iff, ← hversion]
    exact ⟨hlength, hlower⟩
  · -- both are the encoding of the same program
    have ha' := (decodeSegwit_eq_ok_iff_decode a w).mp ha
    have hb' := (decodeSegwit_eq_ok_iff_decode b w).mp hb
    rw [((decode_eq_ok_iff a w).mp ha'.1).2.2, ((decode_eq_ok_iff b w).mp hb'.1).2.2]

/-- The address of a script under the longest known human-readable part, in capitals. -/
theorem decodeSegwit_canonical_capitals :
    decodeSegwit (Text.asciiToUpper (encode "bcrt" 0 (List.replicate 32 0xff)))
        = .ok ⟨"bcrt", 0, List.replicate 32 0xff⟩ ∧
      encodeSegwit "bcrt" (List.replicate 32 0xff) = .ok (Text.asciiToLower
        (Text.asciiToUpper (encode "bcrt" 0 (List.replicate 32 0xff)))) ∧
      Text.asciiToLower (encode "bcrt" 0 (List.replicate 32 0xff)) = Text.asciiToLower
        (Text.asciiToUpper (encode "bcrt" 0 (List.replicate 32 0xff))) := by
  obtain ⟨hiff, hagain, hunique⟩ := decodeSegwit_canonical
  have hsmall : decodeSegwit (encode "bcrt" 0 (List.replicate 32 0xff))
      = .ok ⟨"bcrt", 0, List.replicate 32 0xff⟩ :=
    (hiff _ _ _).mpr ⟨by decide, .inr rfl, _, rfl, .inl rfl⟩
  have hcapitals : decodeSegwit (Text.asciiToUpper (encode "bcrt" 0 (List.replicate 32 0xff)))
      = .ok ⟨"bcrt", 0, List.replicate 32 0xff⟩ :=
    (hiff _ _ _).mpr ⟨by decide, .inr rfl, _, rfl, .inr rfl⟩
  exact ⟨hcapitals, (hagain _ _ hcapitals).2.1, hunique _ _ _ hsmall hcapitals⟩

end Address

end SeedWallet
