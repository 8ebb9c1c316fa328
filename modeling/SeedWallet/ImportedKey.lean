import SeedWallet.Address
import SeedWallet.Curve.SecretKey

/-!
# Imported keys

A single secret key can be brought in as text. Nothing tells which kind of address its owner used, so
there are three candidates, and whoever imports the key says once which of them it is.

- `PrivateKeyText.decode`: the secret key of a text and whether its public key is meant compressed.
- `ImportedKey.ofText`: the key with its candidates under a profile.
- `ImportedKey.select`: the choice of a candidate.
- `ImportedKey.attempt`: the answer to a selection and the key after it.
-/

namespace SeedWallet

/-! ## The text of a secret key -/

/-- A secret key as its text gives it. -/
structure PrivateKeyText where
  secret : SecretKey
  compressed : Bool

namespace PrivateKeyText

/-- The first byte of a secret key of the main network and of a test network. -/
def versions : List UInt8 := [0x80, 0xef]

/-- The failure of a text that does not hold a number of the right length and version. -/
def notBase58 : WalletError := .invalidEncoding "base58"

/-- The failure of a number that is no secret key. -/
def notSecret : WalletError := .invalidEncoding "secp256k1"

/-- The secret key of a text: a version byte and 32 bytes, and one byte more if the public key is
meant compressed, which is not looked at. -/
def decode (text : String) : Result PrivateKeyText :=
  match Base58Check.decode text with
  | .error _ => .error notBase58
  | .ok [] => .error notBase58
  | .ok (version :: rest) =>
    if rest.length ≠ 32 ∧ rest.length ≠ 33 then .error notBase58
    else if version ∉ versions then .error notBase58
    else
      match SecretKey.ofBytes? (rest.take 32) with
      | some secret => .ok ⟨secret, rest.length = 33⟩
      | none => .error notSecret

/-- The public key in the form that is meant. -/
def publicKeyBytes (k : PrivateKeyText) : Bytes :=
  if k.compressed then k.secret.publicKey.compressed else k.secret.publicKey.uncompressed

end PrivateKeyText

/-! ## Candidates -/

/-- An imported key. -/
structure ImportedKey where
  secret : SecretKey
  /-- The text that the key was imported from. -/
  encoded : String
  /-- The legacy address. -/
  legacy : String
  /-- The nested segwit address. -/
  nested : String
  /-- The native segwit address. -/
  native : String
  /-- The candidate that was chosen. -/
  selected : Option String
  deriving DecidableEq

namespace ImportedKey

/-- The three candidates, the oldest kind first. -/
def candidates (k : ImportedKey) : List String :=
  [k.legacy, k.nested, k.native]

/-- The key of a text with its candidates. The legacy address is that of the public key in the form
that the text means; segwit knows compressed keys only. Of the profile only the network counts. -/
def ofText (text : String) (profile : Profile) : Result ImportedKey := do
  let key ← PrivateKeyText.decode text
  let own := hash160 key.publicKeyBytes
  let compressed := hash160 key.secret.publicKey.compressed
  let under (purpose : Purpose) : Profile :=
    (Profile.ofPurpose purpose profile.coinType profile.account).withNetwork profile.network
  let legacy ← Address.build own (under .legacy)
  let nested ← Address.build compressed (under .nestedSegwit)
  let native ← Address.build compressed (under .nativeSegwit)
  return ⟨key.secret, text, legacy, nested, native, none⟩

/-- The key with a candidate chosen, which can be done once. -/
def select (k : ImportedKey) (address : String) : Result ImportedKey :=
  if k.selected.isSome then .error .alreadySelected
  else if address ∉ k.candidates then .error (.notCandidate address)
  else .ok { k with selected := some address }

/-- The answer to a selection and the key after it; what is refused leaves the key as it was. -/
def attempt (k : ImportedKey) (address : String) : Result Unit × ImportedKey :=
  match k.select address with
  | .ok chosen => (.ok (), chosen)
  | .error e => (.error e, k)

/-- A description that keeps the secret back. -/
def description (k : ImportedKey) : String :=
  let quote (s : String) : String := Json.compact (.ofText s)
  let list := "[" ++ String.intercalate ", " (k.candidates.map quote) ++ "]"
  let selected := match k.selected with
    | some s => "Some(" ++ quote s ++ ")"
    | none => "None"
  Text.describePartly "ImportedPrivateKey"
    [("possible_addresses", list), ("selected_address", selected)]

end ImportedKey

end SeedWallet
