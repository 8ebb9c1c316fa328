import SeedWallet.Proofs.Base58
import SeedWallet.Proofs.SegwitAddress

/-!
# The two families of addresses

An address that is built for a profile can always be read again, and a text that can be read belongs to
one family only: base 58 addresses have at most 35 characters and segwit addresses at least 42, so no
assumption about the hash or the checksums is needed to tell them apart.

- `Address.decode_build`: building succeeds, and decoding gives back what was built.
- `Address.not_decodeBase58_of_decodeSegwit`: the families are disjoint.
- `Address.isAddressValidation_of_decodeBase58`, `Address.isAddressValidation_of_decodeSegwit`: every
  refusal says that the text is no valid address.
- `Address.classify_unambiguous`: what the kind of an address says about the decoders.
-/

namespace SeedWallet.Address

open Segwit

/-! ## Building -/

theorem decodeBase58_encodeBase58 {version : UInt8}
    (h : version ∈ keyVersions ∨ version ∈ scriptVersions) (hash : KeyHash) :
    decodeBase58 (encodeBase58 version hash) = .ok (version, hash) :=
  (decodeBase58_eq_ok_iff _ version hash).mpr ⟨h, rfl⟩

theorem keyVersion_mem (network : Network) : network.keyVersion ∈ keyVersions := by
  cases network <;> decide

theorem scriptVersion_mem (network : Network) : network.scriptVersion ∈ scriptVersions := by
  cases network <;> decide

theorem hrp_mem_knownHrps (network : Network) : network.hrp ∈ knownHrps := by
  cases network <;> decide

/-- **Building and decoding round-trip**: every key hash has an address under every profile, and the
decoder of its family recovers the network and the hash, or for nested segwit the hash of the script. -/
theorem decode_build (hash : KeyHash) (profile : Profile) :
    ∃ address, build hash profile = .ok address ∧
      match profile.purpose with
      | .legacy => decodeBase58 address = .ok (profile.network.keyVersion, hash)
      | .nestedSegwit =>
        decodeBase58 address
          = .ok (profile.network.scriptVersion, hash160 (0x00 :: 0x14 :: hash.val))
      | .nativeSegwit => decodeSegwit address = .ok ⟨profile.network.hrp, 0, hash.val⟩ := by
  obtain ⟨purpose, coinType, account, network⟩ := profile
  cases purpose with
  | legacy =>
    exact ⟨_, rfl, decodeBase58_encodeBase58 (.inl (keyVersion_mem network)) hash⟩
  | nestedSegwit =>
    exact ⟨_, rfl, decodeBase58_encodeBase58 (.inr (scriptVersion_mem network))
      (hash160 (redeemScript hash))⟩
  | nativeSegwit =>
    have hlength : hash.val.length = 20 ∨ hash.val.length = 32 := .inl hash.property
    refine ⟨encode network.hrp 0 hash.val, ?_, ?_⟩
    · exact (encodeSegwit_eq_ok_iff _ _ _).mpr ⟨hlength, rfl⟩
    · exact (decodeSegwit_eq_ok_iff _ _).mpr ⟨⟨hrp_mem_knownHrps network, rfl, hlength⟩, .inl rfl⟩

/-! ## Telling the families apart -/

/-- No text is an address of both families. -/
theorem not_decodeBase58_of_decodeSegwit {address : String} {w : WitnessProgram}
    (h : decodeSegwit address = .ok w) (x : UInt8 × KeyHash) : decodeBase58 address ≠ .ok x := by
  intro hx
  have hshort := (length_of_decodeBase58 hx).2
  have hlong := length_of_decodeSegwit h
  omega

theorem isAddressValidation_of_decodeBase58 {address : String} {e : WalletError}
    (h : decodeBase58 address = .error e) : e.isAddressValidation = true := by
  unfold decodeBase58 at h
  split at h
  · cases h
    rfl
  · cases h
    rfl
  · cases h
    rfl
  · cases h
    rfl
  · split at h
    · split at h
      · cases h
      · cases h
        rfl
    · cases h
      rfl

theorem isAddressValidation_segwitError (address : String) (fault : Fault) :
    (segwitError address fault).isAddressValidation = true := by
  cases fault <;> rfl

theorem isAddressValidation_of_decodeSegwit {address : String} {e : WalletError}
    (h : decodeSegwit address = .error e) : e.isAddressValidation = true := by
  unfold decodeSegwit at h
  split at h
  · cases h
    exact isAddressValidation_segwitError address _
  · split at h
    · cases h
      rfl
    · split at h
      · cases h
        rfl
      · split at h
        · cases h
          rfl
        · cases h

/-! ## The kind of an address -/

/-- Version bytes of keys are not those of scripts. -/
theorem not_mem_scriptVersions {version : UInt8} (h : version ∈ keyVersions) :
    version ∉ scriptVersions := by
  have hkey : version = 0x00 ∨ version = 0x6f := by simpa [keyVersions] using h
  rcases hkey with rfl | rfl <;> decide

/-- A known version byte that is not a key's is a script's, so that the test for scripts is never
what refuses an address. -/
theorem kind_of_known {version : UInt8} (h : version ∈ keyVersions ∨ version ∈ scriptVersions)
    (e : WalletError) :
    (if version ∈ keyVersions then (.ok .keyHash : Result AddressKind)
      else if version ∈ scriptVersions then .ok .scriptHash else .error e)
        = .ok (if version ∈ keyVersions then .keyHash else .scriptHash) := by
  by_cases hkey : version ∈ keyVersions
  · rw [if_pos hkey, if_pos hkey]
  · rw [if_neg hkey, if_neg hkey, if_pos (h.resolve_left hkey)]

/-- An address of 20 bytes is of a key, any other segwit address is of a script. -/
theorem classify_of_decodeSegwit {address : String} {w : WitnessProgram}
    (h : decodeSegwit address = .ok w) :
    classify address
      = .ok (if w.program.length = 20 then .witnessKeyHash else .witnessScriptHash) := by
  rw [classify, h]

/-- The version byte of a base 58 address tells its kind, and segwit does not interfere. -/
theorem classify_of_decodeBase58 {address : String} {version : UInt8} {hash : KeyHash}
    (h : decodeBase58 address = .ok (version, hash)) :
    classify address = .ok (if version ∈ keyVersions then .keyHash else .scriptHash) := by
  obtain ⟨hversion, -⟩ := (decodeBase58_eq_ok_iff address version hash).mp h
  cases hsegwit : decodeSegwit address with
  | ok w => exact absurd h (not_decodeBase58_of_decodeSegwit hsegwit _)
  | error e =>
    rw [classify, hsegwit, h]
    exact kind_of_known hversion _

/-- What neither decoder accepts has no kind. -/
theorem classify_of_neither {address : String} (hsegwit : ∀ w, decodeSegwit address ≠ .ok w)
    (hbase58 : ∀ x, decodeBase58 address ≠ .ok x) :
    classify address = .error (.unsupportedAddress address) := by
  cases hs : decodeSegwit address with
  | ok w => exact absurd hs (hsegwit w)
  | error e =>
    cases hb : decodeBase58 address with
    | ok x => exact absurd hb (hbase58 x)
    | error e' => rw [classify, hs, hb]

/-- A text is of one family, of the other or of none. -/
theorem family_cases (address : String) :
    (∃ w, decodeSegwit address = .ok w) ∨ (∃ version hash, decodeBase58 address = .ok (version, hash)) ∨
      ((∀ w, decodeSegwit address ≠ .ok w) ∧ ∀ x, decodeBase58 address ≠ .ok x) := by
  cases hs : decodeSegwit address with
  | ok w => exact .inl ⟨w, rfl⟩
  | error e =>
    cases hb : decodeBase58 address with
    | ok x => exact .inr (.inl ⟨x.1, x.2, rfl⟩)
    | error e' => exact .inr (.inr ⟨fun w => nofun, fun x => nofun⟩)

/-- A kind is that of a segwit address or that of a base 58 address. -/
theorem classify_eq_ok_iff (address : String) (kind : AddressKind) :
    classify address = .ok kind ↔
      (∃ w, decodeSegwit address = .ok w ∧
        (if w.program.length = 20 then .witnessKeyHash else .witnessScriptHash) = kind) ∨
      (∃ version hash, decodeBase58 address = .ok (version, hash) ∧
        (if version ∈ keyVersions then .keyHash else .scriptHash) = kind) := by
  constructor
  · intro h
    rcases family_cases address with ⟨w, hw⟩ | ⟨version, hash, hb⟩ | ⟨hs, hb⟩
    · rw [classify_of_decodeSegwit hw] at h
      exact .inl ⟨w, hw, Except.ok.inj h⟩
    · rw [classify_of_decodeBase58 hb] at h
      exact .inr ⟨version, hash, hb, Except.ok.inj h⟩
    · rw [classify_of_neither hs hb] at h
      cases h
  · rintro (⟨w, hw, rfl⟩ | ⟨version, hash, hb, rfl⟩)
    · exact classify_of_decodeSegwit hw
    · exact classify_of_decodeBase58 hb

theorem classify_eq_witnessKeyHash_iff (address : String) :
    classify address = .ok .witnessKeyHash ↔
      ∃ w, decodeSegwit address = .ok w ∧ w.program.length = 20 := by
  rw [classify_eq_ok_iff]
  constructor
  · rintro (⟨w, hw, hkind⟩ | ⟨version, hash, hb, hkind⟩)
    · by_cases h20 : w.program.length = 20
      · exact ⟨w, hw, h20⟩
      · rw [if_neg h20] at hkind
        cases hkind
    · -- a base 58 address is of another kind
      split at hkind <;> cases hkind
  · rintro ⟨w, hw, h20⟩
    exact .inl ⟨w, hw, if_pos h20⟩

theorem classify_eq_witnessScriptHash_iff (address : String) :
    classify address = .ok .witnessScriptHash ↔
      ∃ w, decodeSegwit address = .ok w ∧ w.program.length = 32 := by
  rw [classify_eq_ok_iff]
  constructor
  · rintro (⟨w, hw, hkind⟩ | ⟨version, hash, hb, hkind⟩)
    · obtain ⟨-, -, -, hlength⟩ := (decodeSegwit_eq_ok_iff_decode address w).mp hw
      by_cases h20 : w.program.length = 20
      · rw [if_pos h20] at hkind
        cases hkind
      · exact ⟨w, hw, hlength.resolve_left h20⟩
    · -- a base 58 address is of another kind
      split at hkind <;> cases hkind
  · rintro ⟨w, hw, h32⟩
    exact .inl ⟨w, hw, if_neg (by omega)⟩

theorem classify_eq_keyHash_iff (address : String) :
    classify address = .ok .keyHash ↔
      ∃ version hash, decodeBase58 address = .ok (version, hash) ∧ version ∈ keyVersions := by
  rw [classify_eq_ok_iff]
  constructor
  · rintro (⟨w, hw, hkind⟩ | ⟨version, hash, hb, hkind⟩)
    · -- a segwit address is of another kind
      split at hkind <;> cases hkind
    · by_cases hkey : version ∈ keyVersions
      · exact ⟨version, hash, hb, hkey⟩
      · rw [if_neg hkey] at hkind
        cases hkind
  · rintro ⟨version, hash, hb, hkey⟩
    exact .inr ⟨version, hash, hb, if_pos hkey⟩

theorem classify_eq_scriptHash_iff (address : String) :
    classify address = .ok .scriptHash ↔
      ∃ version hash, decodeBase58 address = .ok (version, hash) ∧ version ∈ scriptVersions := by
  rw [classify_eq_ok_iff]
  constructor
  · rintro (⟨w, hw, hkind⟩ | ⟨version, hash, hb, hkind⟩)
    · -- a segwit address is of another kind
      split at hkind <;> cases hkind
    · obtain ⟨hversion, -⟩ := (decodeBase58_eq_ok_iff address version hash).mp hb
      by_cases hkey : version ∈ keyVersions
      · rw [if_pos hkey] at hkind
        cases hkind
      · exact ⟨version, hash, hb, hversion.resolve_left hkey⟩
  · rintro ⟨version, hash, hb, hscript⟩
    refine .inr ⟨version, hash, hb, if_neg fun hkey => ?_⟩
    exact not_mem_scriptVersions hkey hscript

/-- The only failure names the text, and it comes exactly of a text of neither family. -/
theorem classify_eq_error_iff (address : String) (e : WalletError) :
    classify address = .error e ↔ e = .unsupportedAddress address ∧
      (∀ w, decodeSegwit address ≠ .ok w) ∧ ∀ x, decodeBase58 address ≠ .ok x := by
  constructor
  · intro h
    rcases family_cases address with ⟨w, hw⟩ | ⟨version, hash, hb⟩ | ⟨hs, hb⟩
    · rw [classify_of_decodeSegwit hw] at h
      cases h
    · rw [classify_of_decodeBase58 hb] at h
      cases h
    · rw [classify_of_neither hs hb] at h
      exact ⟨(Except.error.inj h).symm, hs, hb⟩
  · rintro ⟨rfl, hs, hb⟩
    exact classify_of_neither hs hb

/-- The kind of an address, with base 58 tried before segwit. -/
def classifyBase58First (address : String) : Result AddressKind :=
  match decodeBase58 address with
  | .ok (version, _) =>
    if version ∈ keyVersions then .ok .keyHash
    else if version ∈ scriptVersions then .ok .scriptHash
    else .error (.unsupportedAddress address)
  | .error _ =>
    match decodeSegwit address with
    | .ok w => .ok (if w.program.length = 20 then .witnessKeyHash else .witnessScriptHash)
    | .error _ => .error (.unsupportedAddress address)

/-- It does not matter which family is tried first. -/
theorem classify_eq_classifyBase58First (address : String) :
    classify address = classifyBase58First address := by
  cases hb : decodeBase58 address with
  | ok x =>
    obtain ⟨version, hash⟩ := x
    obtain ⟨hversion, -⟩ := (decodeBase58_eq_ok_iff address version hash).mp hb
    rw [classify_of_decodeBase58 hb, classifyBase58First, hb]
    exact (kind_of_known hversion _).symm
  | error e =>
    cases hs : decodeSegwit address with
    | ok w => rw [classify, classifyBase58First, hb, hs]
    | error e' => rw [classify, classifyBase58First, hb, hs]

/-- **The kind of an address is unambiguous**: no text is of both families, so that the order in which
they are tried does not matter; each of the four kinds says exactly what one decoder returns; any other
text fails with itself; and the refusal of a decoder always says that the text is no valid address. -/
theorem classify_unambiguous (address : String) :
    (∀ w x, ¬ (decodeSegwit address = .ok w ∧ decodeBase58 address = .ok x)) ∧
    classify address = classifyBase58First address ∧
    (classify address = .ok .witnessKeyHash ↔
      ∃ w, decodeSegwit address = .ok w ∧ w.program.length = 20) ∧
    (classify address = .ok .witnessScriptHash ↔
      ∃ w, decodeSegwit address = .ok w ∧ w.program.length = 32) ∧
    (classify address = .ok .keyHash ↔ ∃ version hash,
      decodeBase58 address = .ok (version, hash) ∧ (version = 0x00 ∨ version = 0x6f)) ∧
    (classify address = .ok .scriptHash ↔ ∃ version hash,
      decodeBase58 address = .ok (version, hash) ∧ (version = 0x05 ∨ version = 0xc4)) ∧
    (∀ e, classify address = .error e ↔ e = .unsupportedAddress address ∧
      (∀ w, decodeSegwit address ≠ .ok w) ∧ ∀ x, decodeBase58 address ≠ .ok x) ∧
    (∀ e, decodeBase58 address = .error e → e.isAddressValidation = true) ∧
    (∀ e, decodeSegwit address = .error e → e.isAddressValidation = true) := by
  have hkeys : ∀ version, version ∈ keyVersions ↔ version = 0x00 ∨ version = 0x6f := by
    simp [keyVersions]
  have hscripts : ∀ version, version ∈ scriptVersions ↔ version = 0x05 ∨ version = 0xc4 := by
    simp [scriptVersions]
  refine ⟨fun w x h => not_decodeBase58_of_decodeSegwit h.1 x h.2,
    classify_eq_classifyBase58First address, classify_eq_witnessKeyHash_iff address,
    classify_eq_witnessScriptHash_iff address, ?_, ?_, classify_eq_error_iff address,
    fun e => isAddressValidation_of_decodeBase58, fun e => isAddressValidation_of_decodeSegwit⟩
  · simp only [classify_eq_keyHash_iff, hkeys]
  · simp only [classify_eq_scriptHash_iff, hscripts]

/-- A script's address on the test network, and the refusal of it by the other decoder. -/
theorem classify_unambiguous_script :
    classify (encode "tb" 0 (List.replicate 32 0)) = .ok .witnessScriptHash ∧
      ∃ e, decodeBase58 (encode "tb" 0 (List.replicate 32 0)) = .error e ∧
        e.isAddressValidation = true := by
  obtain ⟨hdisjoint, -, -, hscript, -, -, -, hrefusal, -⟩ :=
    classify_unambiguous (encode "tb" 0 (List.replicate 32 0))
  have hdecode : decodeSegwit (encode "tb" 0 (List.replicate 32 0))
      = .ok ⟨"tb", 0, List.replicate 32 0⟩ :=
    (decodeSegwit_eq_ok_iff _ _).mpr ⟨⟨by decide, rfl, .inr rfl⟩, .inl rfl⟩
  refine ⟨hscript.mpr ⟨_, hdecode, rfl⟩, ?_⟩
  cases hb : decodeBase58 (encode "tb" 0 (List.replicate 32 0)) with
  | ok x => exact absurd ⟨hdecode, hb⟩ (hdisjoint _ x)
  | error e => exact ⟨e, rfl, hrefusal e hb⟩

end SeedWallet.Address
