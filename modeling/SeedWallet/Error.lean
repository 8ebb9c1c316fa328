import SeedWallet.Hex
import SeedWallet.Text.Decimal

/-!
# What can go wrong

- `WalletError`: every failure of a wallet operation, with what is needed to explain it.
- `WalletError.code`: a stable name for the kind of failure.
- `WalletError.message`: the explanation.
- `WalletError.isAddressValidation`: whether the failure says that a text is no valid address.
- `Result α`: a value or a failure.
-/

namespace SeedWallet

/-- A failed wallet operation. -/
inductive WalletError where
  /-- A number that is no purpose. -/
  | invalidPurpose (number : UInt32)
  /-- A number that is no address chain. -/
  | invalidChain (number : UInt32)
  /-- A text that is no derivation path, or a path with a component that cannot be derived. -/
  | invalidPath (reason : String)
  /-- A key that cannot be derived. -/
  | derivationFailed (reason : String)
  /-- A phrase that is no mnemonic. -/
  | invalidMnemonic (reason : String)
  /-- An address whose checksum does not fit. -/
  | checksumMismatch
  /-- An address of a length that no address has. -/
  | invalidLength (length : Nat)
  /-- An address with a character outside its alphabet. -/
  | foreignCharacter
  /-- An address with an unknown version byte. -/
  | unknownVersionByte (version : UInt8)
  /-- A segwit address with an unknown human-readable part. -/
  | invalidHrp (hrp : String)
  /-- A segwit address with a version that is not supported. -/
  | unsupportedWitnessVersion (version : UInt8)
  /-- A segwit address with a program of a length that no program has. -/
  | invalidProgramLength (length : Nat)
  /-- A text that is no segwit address of any kind. -/
  | notSegwit
  /-- A text that is no address of a supported kind. -/
  | unsupportedAddress (address : String)
  /-- Change asked of a purpose that makes none. -/
  | noChangeOutput (purpose : UInt32)
  /-- An address that was searched for in vain. -/
  | notFound (target : String)
  /-- A text that names no network, or holds no secret key. -/
  | invalidEncoding (reason : String)
  /-- A text or byte string that is no public key. -/
  | invalidPublicKey (reason : String)
  /-- A body that cannot be sealed. -/
  | encryptionFailed (reason : String)
  /-- A payload that cannot be opened. -/
  | decryptionFailed (reason : String)
  /-- A selected address that is no candidate of the imported key. -/
  | notCandidate (address : String)
  /-- A second selection for an imported key. -/
  | alreadySelected
  deriving DecidableEq, Repr

/-- A value or a failure. -/
abbrev Result (α : Type) := Except WalletError α

namespace Result

variable {α β : Type}

@[simp] theorem ok_bind (a : α) (f : α → Result β) : (.ok a : Result α) >>= f = f a := rfl

@[simp] theorem error_bind (e : WalletError) (f : α → Result β) :
    (.error e : Result α) >>= f = .error e := rfl

/-- Two steps have a value if both have one. -/
theorem bind_eq_ok_iff {ε : Type} {x : Except ε α} {f : α → Except ε β} {b : β} :
    x >>= f = .ok b ↔ ∃ a, x = .ok a ∧ f a = .ok b := by
  cases x with
  | error e =>
    constructor
    · intro h
      cases h
    · rintro ⟨a, ha, -⟩
      cases ha
  | ok a =>
    constructor
    · intro h
      exact ⟨a, rfl, h⟩
    · rintro ⟨_, ha, h⟩
      cases ha
      exact h

/-- The failure of two steps is that of the first one that fails. -/
theorem bind_eq_error_iff {x : Result α} {f : α → Result β} {e : WalletError} :
    x >>= f = .error e ↔ x = .error e ∨ ∃ a, x = .ok a ∧ f a = .error e := by
  cases x with
  | error e' =>
    constructor
    · intro h
      cases h
      exact .inl rfl
    · rintro (h | ⟨a, ha, -⟩)
      · cases h
        rfl
      · cases ha
  | ok a =>
    constructor
    · intro h
      exact .inr ⟨a, rfl, h⟩
    · rintro (h | ⟨_, ha, h⟩)
      · cases h
      · cases ha
        exact h

end Result

namespace WalletError

/-- The stable name of the kind of failure. -/
def code : WalletError → String
  | .invalidPurpose _ => "invalid_purpose"
  | .invalidChain _ => "invalid_change_chain"
  | .invalidPath _ => "invalid_derivation_path"
  | .derivationFailed _ => "derivation_failed"
  | .invalidMnemonic _ => "invalid_mnemonic"
  | .checksumMismatch => "invalid_checksum"
  | .invalidLength _ => "invalid_length"
  | .foreignCharacter => "invalid_charset"
  | .unknownVersionByte _ => "invalid_version_byte"
  | .invalidHrp _ => "invalid_hrp"
  | .unsupportedWitnessVersion _ => "invalid_witness_version"
  | .invalidProgramLength _ => "invalid_program_length"
  | .notSegwit => "unrecognized_format"
  | .unsupportedAddress _ => "unsupported_address_format"
  | .noChangeOutput _ => "unsupported_change_output"
  | .notFound _ => "not_found"
  | .invalidEncoding _ => "invalid_encoding"
  | .invalidPublicKey _ => "invalid_public_key"
  | .encryptionFailed _ => "encryption_failed"
  | .decryptionFailed _ => "decryption_failed"
  | .notCandidate _ => "address_not_candidate"
  | .alreadySelected => "address_already_selected"

/-- The explanation of the failure. -/
def message : WalletError → String
  | .invalidPurpose n => "Invalid purpose: " ++ Decimal.text n.toNat ++ " (must be 44, 49 or 84)"
  | .invalidChain n => "Invalid change chain: " ++ Decimal.text n.toNat ++ " (must be 0 or 1)"
  | .invalidPath reason => "Invalid derivation path: " ++ reason
  | .derivationFailed reason => "Key derivation failed: " ++ reason
  | .invalidMnemonic reason => "Invalid mnemonic: " ++ reason
  | .checksumMismatch => "Address checksum mismatch"
  | .invalidLength n => "Invalid address length: " ++ Decimal.text n
  | .foreignCharacter => "Address contains characters outside its encoding alphabet"
  | .unknownVersionByte v => "Unknown address version byte: 0x" ++ Hex.encode [v]
  | .invalidHrp hrp => "Invalid human-readable prefix: " ++ hrp
  | .unsupportedWitnessVersion v => "Unsupported witness version: " ++ Decimal.text v.toNat
  | .invalidProgramLength n => "Invalid witness program length: " ++ Decimal.text n
  | .notSegwit => "Address is not a native segwit address"
  | .unsupportedAddress address => "Unsupported address format: " ++ address
  | .noChangeOutput n => "Purpose " ++ Decimal.text n.toNat ++ " does not originate change outputs"
  | .notFound target => "Not found: " ++ target
  | .invalidEncoding reason => "Invalid encoding: " ++ reason
  | .invalidPublicKey reason => "Invalid public key: " ++ reason
  | .encryptionFailed reason => "Encryption failed: " ++ reason
  | .decryptionFailed reason => "Decryption failed: " ++ reason
  | .notCandidate address =>
    "Address " ++ address ++ " is not one of the imported key's candidates"
  | .alreadySelected => "An address has already been selected for this key"

/-- Whether the failure says that a text is no valid address. -/
def isAddressValidation : WalletError → Bool
  | .checksumMismatch | .invalidLength _ | .foreignCharacter | .unknownVersionByte _ | .invalidHrp _
  | .unsupportedWitnessVersion _ | .invalidProgramLength _ => true
  | _ => false

end WalletError

end SeedWallet
