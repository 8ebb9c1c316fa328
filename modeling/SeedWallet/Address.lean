import SeedWallet.Address.Base58Check
import SeedWallet.Address.Segwit
import SeedWallet.Hash.Ripemd160
import SeedWallet.Profile

/-!
# Addresses

An address is either a version byte and a hash with a base-58 checksum, which pays to a key or to a
script, or a segwit address.

- `Address.build`: the address of a key hash under a profile.
- `Address.decodeBase58`, `Address.decodeSegwit`: what an address of either family stands for; only
  the known networks' addresses are accepted, and of segwit only version zero.
- `Address.hrpOf`: the human-readable part of any valid segwit address.
- `Address.classify`: the kind of an address.
-/

namespace SeedWallet

/-- What an address pays to. -/
inductive AddressKind where
  /-- The hash of a key. -/
  | keyHash
  /-- The hash of a script. -/
  | scriptHash
  /-- The hash of a key, by segwit. -/
  | witnessKeyHash
  /-- The hash of a script, by segwit. -/
  | witnessScriptHash
  deriving DecidableEq, Repr

namespace AddressKind

/-- The name of the kind. -/
def name : AddressKind → String
  | .keyHash => "p2pkh"
  | .scriptHash => "p2sh"
  | .witnessKeyHash => "p2wpkh"
  | .witnessScriptHash => "p2wsh"

/-- The kind of that name. -/
def ofName? : String → Option AddressKind
  | "p2pkh" => some .keyHash
  | "p2sh" => some .scriptHash
  | "p2wpkh" => some .witnessKeyHash
  | "p2wsh" => some .witnessScriptHash
  | _ => none

/-- Every kind. -/
def all : List AddressKind :=
  [.keyHash, .scriptHash, .witnessKeyHash, .witnessScriptHash]

@[simp] theorem ofName?_name (k : AddressKind) : ofName? k.name = some k := by
  cases k <;> rfl

/-- Virtual bytes of an output that pays to an address of the kind. -/
def outputSize : AddressKind → Nat
  | .keyHash => 34
  | .scriptHash => 32
  | .witnessKeyHash => 31
  | .witnessScriptHash => 43

/-- A kind is exchanged as its name. -/
def toJson (k : AddressKind) : Json :=
  .ofText k.name

/-- The kind of that name. -/
def ofJson? (j : Json) : Option AddressKind :=
  j.constant?.bind ofName?

@[simp] theorem ofJson?_toJson (k : AddressKind) : ofJson? k.toJson = some k := by
  cases k <;> rfl

end AddressKind

namespace Address

/-! ## Base 58 -/

/-- The version bytes of addresses that name a key. -/
def keyVersions : List UInt8 := [0x00, 0x6f]

/-- The version bytes of addresses that name a script. -/
def scriptVersions : List UInt8 := [0x05, 0xc4]

/-- The address of a version byte and a hash. -/
def encodeBase58 (version : UInt8) (hash : KeyHash) : String :=
  Base58Check.encode (version :: hash.val)

/-- The version byte and the hash of an address. -/
def decodeBase58 (address : String) : Result (UInt8 × KeyHash) :=
  match Base58Check.decode address with
  | .error .foreignCharacter => .error .foreignCharacter
  | .error .tooShort => .error (.invalidLength (utf8 address).length)
  | .error .checksum => .error .checksumMismatch
  | .ok [] => .error (.invalidLength 0)
  | .ok (version :: hash) =>
    if h : hash.length = 20 then
      if version ∈ keyVersions ∨ version ∈ scriptVersions then .ok (version, ⟨hash, h⟩)
      else .error (.unknownVersionByte version)
    else .error (.invalidLength (hash.length + 1))

/-! ## Segwit -/

/-- The human-readable parts of the known networks. -/
def knownHrps : List String := ["bc", "tb", "bcrt"]

/-- The text before the last `1`, in lower case. -/
def hrpText (address : String) : String :=
  match Segwit.splitAtSeparator? address.toList with
  | some (hrp, _) => Text.toLower (String.ofList hrp)
  | none => ""

/-- How many bytes the symbols between version and checksum fill, as the length of the text after the
last `1` tells. -/
def programLengthHint (address : String) : Nat :=
  match Segwit.splitAtSeparator? address.toList with
  | some (_, data) => ((utf8 (String.ofList data)).length - 7) * 5 / 8
  | none => 0

/-- A fault of a segwit text as a failed wallet operation. -/
def segwitError (address : String) : Segwit.Fault → WalletError
  | .checksum => .checksumMismatch
  | .version v => .unsupportedWitnessVersion (UInt8.ofNat v)
  | .programLength => .invalidProgramLength (programLengthHint address)
  | .hrp => .invalidHrp (hrpText address)
  | .characters => .foreignCharacter
  | .tooLong | .noData | .padding => .invalidLength (utf8 address).length

/-- The witness program of an address of a known network and of version zero. -/
def decodeSegwit (address : String) : Result WitnessProgram :=
  match Segwit.decode address with
  | .error fault => .error (segwitError address fault)
  | .ok w =>
    if w.hrp ∉ knownHrps then .error (.invalidHrp w.hrp)
    else if w.version ≠ 0 then .error (.unsupportedWitnessVersion (UInt8.ofNat w.version))
    else if w.program.length ≠ 20 ∧ w.program.length ≠ 32 then
      .error (.invalidProgramLength w.program.length)
    else .ok w

/-- The human-readable part of a segwit address of any network and version. -/
def hrpOf (address : String) : Result String :=
  match Segwit.decode address with
  | .error _ => .error .notSegwit
  | .ok w => .ok w.hrp

/-- The segwit address of a program of version zero. -/
def encodeSegwit (hrp : String) (program : Bytes) : Result String :=
  if Segwit.isProgramLength 0 program.length then .ok (Segwit.encode hrp 0 program)
  else .error (.invalidProgramLength program.length)

/-! ## Both families -/

/-- The script that nested segwit addresses hash: version zero and the key hash. -/
def redeemScript (hash : KeyHash) : Bytes :=
  0x00 :: 0x14 :: hash.val

/-- The address of a key hash under a profile. -/
def build (hash : KeyHash) (profile : Profile) : Result String :=
  match profile.purpose with
  | .legacy => .ok (encodeBase58 profile.network.keyVersion hash)
  | .nestedSegwit =>
    .ok (encodeBase58 profile.network.scriptVersion (hash160 (redeemScript hash)))
  | .nativeSegwit => encodeSegwit profile.network.hrp hash.val

/-- The kind of an address. -/
def classify (address : String) : Result AddressKind :=
  match decodeSegwit address with
  | .ok w => .ok (if w.program.length = 20 then .witnessKeyHash else .witnessScriptHash)
  | .error _ =>
    match decodeBase58 address with
    | .ok (version, _) =>
      if version ∈ keyVersions then .ok .keyHash
      else if version ∈ scriptVersions then .ok .scriptHash
      else .error (.unsupportedAddress address)
    | .error _ => .error (.unsupportedAddress address)

end Address

end SeedWallet
