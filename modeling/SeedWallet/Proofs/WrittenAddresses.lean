import SeedWallet.Proofs.AddressFamilies

/-!
# Addresses of a hash

Of a profile only purpose and network show in an address: the purpose tells its kind, and the network its
version byte or its human-readable part. Every hash has an address for each of them, which can be read
again and is of that kind.

- `Address.written`, `Address.build_eq`: the address of a hash for a purpose and a network.
- `Purpose.addressKind`, `Address.classify_written`: the kind of addresses that a purpose has.
-/

namespace SeedWallet

/-- The kind of the addresses of a purpose. -/
def Purpose.addressKind : Purpose → AddressKind
  | .legacy => .keyHash
  | .nestedSegwit => .scriptHash
  | .nativeSegwit => .witnessKeyHash

namespace Address

/-- The address of a key hash for a purpose and a network. -/
def written (purpose : Purpose) (network : Network) (hash : KeyHash) : String :=
  match purpose with
  | .legacy => encodeBase58 network.keyVersion hash
  | .nestedSegwit => encodeBase58 network.scriptVersion (hash160 (redeemScript hash))
  | .nativeSegwit => Segwit.encode network.hrp 0 hash.val

/-- Of a profile purpose and network show in an address, and every hash has one. -/
theorem build_eq (hash : KeyHash) (profile : Profile) :
    build hash profile = .ok (written profile.purpose profile.network hash) := by
  rw [build]
  cases profile.purpose with
  | legacy => rfl
  | nestedSegwit => rfl
  | nativeSegwit => exact (encodeSegwit_eq_ok_iff _ _ _).mpr ⟨.inl hash.property, rfl⟩

section

variable (network : Network) (hash : KeyHash)

theorem decodeBase58_written_legacy :
    decodeBase58 (written .legacy network hash) = .ok (network.keyVersion, hash) :=
  decodeBase58_encodeBase58 (.inl (keyVersion_mem network)) hash

theorem decodeBase58_written_nestedSegwit :
    decodeBase58 (written .nestedSegwit network hash) =
      .ok (network.scriptVersion, hash160 (redeemScript hash)) :=
  decodeBase58_encodeBase58 (.inr (scriptVersion_mem network)) _

theorem decodeSegwit_written_nativeSegwit :
    decodeSegwit (written .nativeSegwit network hash) = .ok ⟨network.hrp, 0, hash.val⟩ :=
  (decodeSegwit_eq_ok_iff _ _).mpr
    ⟨⟨hrp_mem_knownHrps network, rfl, .inl hash.property⟩, .inl rfl⟩

theorem classify_written_legacy : classify (written .legacy network hash) = .ok .keyHash := by
  rw [classify_of_decodeBase58 (decodeBase58_written_legacy network hash),
    if_pos (keyVersion_mem network)]

theorem classify_written_nestedSegwit :
    classify (written .nestedSegwit network hash) = .ok .scriptHash := by
  have hscript : network.scriptVersion ∉ keyVersions := fun h =>
    not_mem_scriptVersions h (scriptVersion_mem network)
  rw [classify_of_decodeBase58 (decodeBase58_written_nestedSegwit network hash), if_neg hscript]

theorem classify_written_nativeSegwit :
    classify (written .nativeSegwit network hash) = .ok .witnessKeyHash := by
  rw [classify_of_decodeSegwit (decodeSegwit_written_nativeSegwit network hash),
    if_pos hash.property]

/-- The kind of an address is that of its purpose. -/
theorem classify_written (purpose : Purpose) :
    classify (written purpose network hash) = .ok purpose.addressKind := by
  cases purpose with
  | legacy => exact classify_written_legacy network hash
  | nestedSegwit => exact classify_written_nestedSegwit network hash
  | nativeSegwit => exact classify_written_nativeSegwit network hash

/-- Every address has characters. -/
theorem written_ne_empty (purpose : Purpose) : written purpose network hash ≠ "" := by
  intro h
  have hkind := classify_written network hash purpose
  have hempty : classify "" = .error (.unsupportedAddress "") := by decide
  rw [h, hempty] at hkind
  cases hkind

end

end Address

end SeedWallet
