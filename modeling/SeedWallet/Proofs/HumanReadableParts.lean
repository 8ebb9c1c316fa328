import SeedWallet.Proofs.WrittenAddresses

/-!
# Human-readable parts

The human-readable part can be asked for of any segwit text, of whatever network and version. The decoder
of addresses reads the same texts and accepts some of them: those with the human-readable part of a known
network and with version zero, which is written as the first symbol after the last separator. That their
programs have one of two lengths is a rule of the version, and not a condition of its own.

- `Segwit.Spells`: the text is a spelling of the witness program.
- `Segwit.exists_split_of_decode`: what stands around the last separator of a spelling.
- `Address.hrpOf_eq_ok_iff`, `Address.hrpOf_eq_error_iff`: which texts have a human-readable part.
- `Address.exists_decodeSegwit_iff`: which of them are addresses.
- `Address.hrpOf_agrees`: how human-readable parts and addresses fit together.
-/

namespace SeedWallet

/-- The symbol zero is written with one letter, of either case. -/
theorem Symbol.toLower_eq_char_zero_iff (c : Char) :
    c.toLower = Symbol.char 0 ↔ c = 'q' ∨ c = 'Q' := by
  constructor
  · intro h
    have hcode : c.toLower.toNat = 113 := congrArg Char.toNat h
    rw [toNat_toLower] at hcode
    rw [← Char.toNat_inj, ← Char.toNat_inj]
    show c.toNat = 113 ∨ c.toNat = 81
    split at hcode <;> omega
  · rintro (rfl | rfl) <;> decide

namespace Segwit

/-! ## Spellings -/

/-- The text is a spelling of the witness program: it is not too long and in one case, the program has a
proper human-readable part, version and length, and in lower case the text is what is written for it. -/
def Spells (text : String) (w : WitnessProgram) : Prop :=
  WellSpelled text ∧ Proper w ∧ Text.asciiToLower text = encode w.hrp w.version w.program

/-- The texts that are read are the spellings. -/
theorem decode_eq_ok_iff_spells (text : String) (w : WitnessProgram) :
    decode text = .ok w ↔ Spells text w :=
  decode_eq_ok_iff text w

/-- Around the last separator of a spelling stand the human-readable part and the symbol of the
version. -/
theorem exists_split_of_decode {text : String} {w : WitnessProgram} (h : decode text = .ok w) :
    ∃ before c after, text.toList = before ++ '1' :: c :: after ∧ '1' ∉ c :: after ∧
      String.ofList (before.map Char.toLower) = w.hrp ∧
      c.toLower = Symbol.char (BitVec.ofNat 5 w.version) := by
  obtain ⟨-, -, hlower⟩ := lower_eq_encode_of_decode h
  rw [← String.toList_inj, toList_asciiToLower, toList_encode] at hlower
  obtain ⟨before, data, hsplit, hlast, hbefore, hdata⟩ := split_of_map_toLower hlower
  rw [payload, List.cons_append, List.map_cons] at hdata
  obtain ⟨c, after, rfl, hc, -⟩ := List.map_eq_cons_iff.mp hdata
  exact ⟨before, c, after, hsplit, hlast, by rw [hbefore, String.ofList_toList], hc⟩

/-- A spelling is of version zero exactly if its first symbol after the last separator is zero. -/
theorem version_eq_zero_iff {text : String} {w : WitnessProgram} (h : decode text = .ok w)
    {before after : List Char} {c : Char} (hsplit : text.toList = before ++ '1' :: c :: after)
    (hlast : '1' ∉ c :: after) : w.version = 0 ↔ c = 'q' ∨ c = 'Q' := by
  obtain ⟨-, hproper, -⟩ := (decode_eq_ok_iff text w).mp h
  obtain ⟨before', c', after', hsplit', hlast', -, hsymbol⟩ := exists_split_of_decode h
  -- there is one last separator
  have hpart := (splitAtSeparator?_eq_some_iff _ _ _).mpr ⟨hsplit, hlast⟩
  have hpart' := (splitAtSeparator?_eq_some_iff _ _ _).mpr ⟨hsplit', hlast'⟩
  rw [hpart'] at hpart
  cases hpart
  have hversion := hproper.version
  rw [← Symbol.toLower_eq_char_zero_iff, hsymbol, Symbol.char_injective.eq_iff, ← BitVec.toNat_inj,
    BitVec.toNat_ofNat, Nat.mod_eq_of_lt (by omega)]
  rfl

end Segwit

namespace Address

open Segwit

/-! ## Human-readable parts and addresses -/

theorem hrpOf_eq_ok_iff (address hrp : String) :
    hrpOf address = .ok hrp ↔ ∃ w, decode address = .ok w ∧ w.hrp = hrp := by
  rw [hrpOf]
  cases decode address <;> simp

theorem hrpOf_eq_error_iff (address : String) (e : WalletError) :
    hrpOf address = .error e ↔ e = .notSegwit ∧ ∀ w, decode address ≠ .ok w := by
  rw [hrpOf]
  cases decode address <;> simp [eq_comm]

/-- Of a segwit text network and version tell whether it is an address. -/
theorem decodeSegwit_eq_ok_iff_known (address : String) (w : WitnessProgram) :
    decodeSegwit address = .ok w ↔
      decode address = .ok w ∧ w.hrp ∈ knownHrps ∧ w.version = 0 := by
  rw [decodeSegwit_eq_ok_iff_decode]
  constructor
  · rintro ⟨hdecode, hhrp, hversion, -⟩
    exact ⟨hdecode, hhrp, hversion⟩
  · rintro ⟨hdecode, hhrp, hversion⟩
    obtain ⟨-, hproper, -⟩ := (decode_eq_ok_iff address w).mp hdecode
    have hlength := hproper.length
    rw [hversion, isProgramLength_zero_iff] at hlength
    exact ⟨hdecode, hhrp, hversion, hlength⟩

/-- A text is an address exactly if it has a known human-readable part and begins with the letter of
version zero after it. -/
theorem exists_decodeSegwit_iff (address : String) :
    (∃ w, decodeSegwit address = .ok w) ↔
      ∃ hrp, hrpOf address = .ok hrp ∧ hrp ∈ knownHrps ∧
        ∃ before c after, address.toList = before ++ '1' :: c :: after ∧ '1' ∉ c :: after ∧
          (c = 'q' ∨ c = 'Q') := by
  constructor
  · rintro ⟨w, h⟩
    obtain ⟨hdecode, hhrp, hversion⟩ := (decodeSegwit_eq_ok_iff_known address w).mp h
    obtain ⟨before, c, after, hsplit, hlast, -, -⟩ := exists_split_of_decode hdecode
    exact ⟨w.hrp, (hrpOf_eq_ok_iff _ _).mpr ⟨w, hdecode, rfl⟩, hhrp, before, c, after, hsplit, hlast,
      (version_eq_zero_iff hdecode hsplit hlast).mp hversion⟩
  · rintro ⟨hrp, hhrpOf, hhrp, before, c, after, hsplit, hlast, hletter⟩
    obtain ⟨w, hdecode, rfl⟩ := (hrpOf_eq_ok_iff _ _).mp hhrpOf
    exact ⟨w, (decodeSegwit_eq_ok_iff_known address w).mpr ⟨hdecode, hhrp,
      (version_eq_zero_iff hdecode hsplit hlast).mpr hletter⟩⟩

/-- The human-readable part of an address is that of its network. -/
theorem hrpOf_of_decodeSegwit {address : String} {w : WitnessProgram}
    (h : decodeSegwit address = .ok w) : hrpOf address = .ok w.hrp :=
  (hrpOf_eq_ok_iff _ _).mpr ⟨w, ((decodeSegwit_eq_ok_iff_known address w).mp h).1, rfl⟩

/-- **Human-readable parts and addresses agree.** A text is an address exactly if it has the
human-readable part of a known network and the letter of version zero after the last separator, and then
it is an address of that network. Any other text is a spelling of another network or version, whose
human-readable part is the text before the last separator in lower case, or it has none, as it is no
spelling at all. Native segwit addresses that are built have the human-readable part of their network. -/
theorem hrpOf_agrees :
    (∀ s, (∃ w, decodeSegwit s = .ok w) ↔
      ∃ hrp, hrpOf s = .ok hrp ∧ hrp ∈ ["bc", "tb", "bcrt"] ∧
        ∃ before c after, s.toList = before ++ '1' :: c :: after ∧ '1' ∉ c :: after ∧
          (c = 'q' ∨ c = 'Q')) ∧
    (∀ s w, decodeSegwit s = .ok w → hrpOf s = .ok w.hrp) ∧
    (∀ s, (∀ w, decodeSegwit s ≠ .ok w) →
      hrpOf s = .error .notSegwit ∨
        ∃ w before after, Spells s w ∧ (w.hrp ∉ ["bc", "tb", "bcrt"] ∨ w.version ≠ 0) ∧
          s.toList = before ++ '1' :: after ∧ '1' ∉ after ∧
          hrpOf s = .ok (String.ofList (before.map Char.toLower))) ∧
    (∀ s e, hrpOf s = .error e ↔ e = .notSegwit ∧ ∀ w, ¬ Spells s w) ∧
    (∀ hash profile, profile.purpose = .nativeSegwit →
      ∃ address, build hash profile = .ok address ∧ hrpOf address = .ok profile.network.hrp) := by
  refine ⟨exists_decodeSegwit_iff, fun s w => hrpOf_of_decodeSegwit, fun s hnone => ?_,
    fun s e => ?_, fun hash profile hpurpose => ?_⟩
  · cases hdecode : decode s with
    | error fault =>
      refine .inl ((hrpOf_eq_error_iff s _).mpr ⟨rfl, fun w h => ?_⟩)
      rw [hdecode] at h
      cases h
    | ok w =>
      obtain ⟨before, c, after, hsplit, hlast, hhrp, -⟩ := exists_split_of_decode hdecode
      refine .inr ⟨w, before, c :: after, (decode_eq_ok_iff_spells s w).mp hdecode, ?_, hsplit, hlast,
        (hrpOf_eq_ok_iff s _).mpr ⟨w, hdecode, hhrp.symm⟩⟩
      by_contra hknown
      rw [not_or, not_not, not_not] at hknown
      exact hnone w ((decodeSegwit_eq_ok_iff_known s w).mpr ⟨hdecode, hknown⟩)
  · simp only [hrpOf_eq_error_iff, ← decode_eq_ok_iff_spells, ne_eq]
  · refine ⟨_, build_eq hash profile, ?_⟩
    rw [hpurpose]
    exact hrpOf_of_decodeSegwit (decodeSegwit_written_nativeSegwit profile.network hash)

/-- A text of a later version has the human-readable part of its network, and is no address. -/
theorem hrpOf_agrees_other_version :
    (∀ v, decodeSegwit (encode "bc" 1 (List.replicate 32 0x33)) ≠ .ok v) ∧
      ∃ hrp, hrpOf (encode "bc" 1 (List.replicate 32 0x33)) = .ok hrp := by
  obtain ⟨-, -, hother, hfailure, -⟩ := hrpOf_agrees
  have hdecode : decode (encode "bc" 1 (List.replicate 32 0x33)) =
      .ok ⟨"bc", 1, List.replicate 32 0x33⟩ :=
    decode_of_eq_encode_or_upper ⟨by decide, by decide, by decide⟩ (by decide) (by decide) (.inl rfl)
  have hnone : ∀ v, decodeSegwit (encode "bc" 1 (List.replicate 32 0x33)) ≠ .ok v := by
    intro v h
    obtain ⟨hv, -, hversion⟩ := (decodeSegwit_eq_ok_iff_known _ v).mp h
    rw [hdecode] at hv
    cases hv
    cases hversion
  refine ⟨hnone, ?_⟩
  rcases hother _ hnone with h | ⟨w, before, after, -, -, -, -, h⟩
  · exact absurd ((decode_eq_ok_iff_spells _ _).mp hdecode) (((hfailure _ _).mp h).2 _)
  · exact ⟨_, h⟩

end Address

end SeedWallet
