import SeedWallet.AddressRecord
import SeedWallet.Envelope
import SeedWallet.ExtendedKey
import SeedWallet.Fee
import SeedWallet.ImportedKey
import SeedWallet.Mnemonic

/-!
# Wallets

A wallet is a phrase, the master key that grows from it and the profile in force. Every operation
reads the wallet; only `Wallet.install` makes another one.

- `Wallet.ofPhrase`: the wallet of a phrase.
- `Wallet.install`: the wallet under another profile.
- `Wallet.receive`, `Wallet.change`, `Wallet.find`: addresses by index, and the index of an address.
- `Wallet.sign`, `Wallet.verificationKey`: messages signed with the signing key.
- `Wallet.encrypt`, `Wallet.encryptEphemeral`, `Wallet.decrypt`, `Wallet.decryptAt`: sealed payloads.
-/

namespace SeedWallet

/-- A wallet. -/
structure Wallet where
  /-- The phrase as it was given. -/
  phrase : String
  master : ExtendedKey
  /-- The profile in force. -/
  profile : Profile

namespace Wallet

/-- The seed that a phrase stands for. -/
def seedOfPhrase (phrase : String) : Result Bytes :=
  match Mnemonic.parse phrase with
  | .ok m => .ok m.seed
  | .error fault => .error fault.toError

/-- The wallet of a phrase under a profile. The master key is made for the profile's network, and is
kept when another profile is installed. -/
def ofPhrase (phrase : String) (profile : Profile) : Result Wallet := do
  let seed ← seedOfPhrase phrase
  let master ← ExtendedKey.master seed profile.network
  return ⟨phrase, master, profile⟩

/-- The same wallet under another profile. -/
def install (w : Wallet) (profile : Profile) : Wallet :=
  { w with profile }

/-! ## Addresses -/

/-- The address at an index of a chain. -/
def addressAt (w : Wallet) (chain : Chain) (index : UInt32) : Result AddressRecord := do
  let path := Path.ofProfile w.profile chain index
  let key ← w.master.atPath path
  let address ← Address.build key.keyHash w.profile
  return ⟨address, path, w.profile, key.publicKey.hex⟩

/-- The address at an index for payments from others. -/
def receive (w : Wallet) (index : UInt32) : Result AddressRecord :=
  w.addressAt .receive index

/-- The address at an index for change. -/
def change (w : Wallet) (index : UInt32) : Result AddressRecord :=
  w.addressAt .change index

/-- The address, if it is at the index of one of the chains. -/
def findAt (w : Wallet) (target : String) (index : UInt32) : Result (Option AddressRecord) := do
  let received ← w.receive index
  if received.address = target then return some received
  let changed ← w.change index
  if changed.address = target then return some changed
  return none

/-- The address, if it is at one of `count` indices from `index` on. -/
def findFrom (w : Wallet) (target : String) : Nat → Nat → Result AddressRecord
  | 0, _ => .error (.notFound target)
  | count + 1, index => do
    match ← w.findAt target (UInt32.ofNat index) with
    | some found => return found
    | none => w.findFrom target count (index + 1)

/-- The address, if it is at an index below the limit: of each index the address for payments is
looked at before the one for change. -/
def find (w : Wallet) (target : String) (limit : UInt32) : Result AddressRecord :=
  w.findFrom target limit.toNat 0

/-! ## Signatures -/

/-- The written form of the signature of a message. -/
def sign (w : Wallet) (message : Bytes) : Result Bytes :=
  w.master.sign message

/-- The same in hexadecimal digits. -/
def signHex (w : Wallet) (message : Bytes) : Result String :=
  (w.sign message).map Hex.encode

/-- The secret of the signing key. -/
def signingSecret (w : Wallet) : Result SecretKey :=
  w.master.signingKey.map ExtendedKey.secret

/-- The public key that verifies the wallet's signatures. -/
def signingPublicKey (w : Wallet) : Result PublicKey :=
  w.master.signingKey.map ExtendedKey.publicKey

/-- The same in hexadecimal digits. -/
def verificationKey (w : Wallet) : Result String :=
  w.signingPublicKey.map PublicKey.hex

/-! ## Sealed payloads -/

/-- A payload from the wallet's signing key to the owner of a public key. -/
def encrypt (w : Wallet) (body : Bytes) (recipient : String)
    (nonce : FixedBytes Envelope.nonceSize) : Result Bytes := do
  let recipient ← PublicKey.parse recipient
  let sender ← w.signingSecret
  Envelope.encrypt body sender recipient nonce

/-- A payload from a key that is made for it out of entropy, and is no wallet's. -/
def encryptEphemeral (body entropy : Bytes) (recipient : String)
    (nonce : FixedBytes Envelope.nonceSize) : Result Bytes := do
  let recipient ← PublicKey.parse recipient
  match Mnemonic.ofEntropy entropy with
  | .error fault => .error fault.toError
  | .ok m =>
    let seed ← seedOfPhrase m.phrase
    let sender ← ExtendedKey.master seed Profile.importDefault.network
    Envelope.encrypt body sender.secret recipient nonce

/-- The body of a payload for the wallet's signing key. -/
def decrypt (w : Wallet) (payload : Bytes) : Result Bytes := do
  let key ← w.signingSecret
  Envelope.decrypt payload key

/-- The body of a payload for the key of an address. -/
def decryptAt (w : Wallet) (payload : Bytes) (path : Path) : Result Bytes := do
  let key ← w.master.atPath path
  Envelope.decrypt payload key.secret

/-! ## Fees and imports -/

/-- The size of the wallet's transaction. -/
def transactionSize (w : Wallet) (utxos : List Utxo) (destination : String) (change : Bool) :
    Result Nat :=
  Fee.totalSize w.profile utxos destination change

/-- The key of a text, with candidates of the main network. -/
def importKey (text : String) : Result ImportedKey :=
  ImportedKey.ofText text .importDefault

/-- The key of a text, with candidates of the profile's network. -/
def importKeyWith (text : String) (profile : Profile) : Result ImportedKey :=
  ImportedKey.ofText text profile

/-- A description that keeps phrase and keys back. -/
def description (w : Wallet) : String :=
  Text.describePartly "HdWallet" [("profile", w.profile.description)]

end Wallet

end SeedWallet
