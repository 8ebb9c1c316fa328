import SeedWallet.Curve.Signature
import SeedWallet.Hash.Ripemd160
import SeedWallet.Path

/-!
# The key tree

Every key of a wallet is derived from one master key. A key carries a chain code, from which, together
with the key itself, its children come. It also carries the network that the tree was made for, which
children inherit.

- `ExtendedKey.master seed network`: the root of the tree.
- `ExtendedKey.child`, `ExtendedKey.descend`: one step down the tree, and several.
- `ExtendedKey.atPath`: the key of an address.
- `ExtendedKey.signingKey`: the key that signs messages and opens payloads. Its place in the tree is
  no address's.
-/

namespace SeedWallet

/-- A key of the tree: its secret and its chain code, and where it was derived. -/
structure ExtendedKey where
  network : Network
  depth : Nat
  childNumber : ChildNumber
  secret : SecretKey
  chainCode : Bytes
  deriving DecidableEq

namespace ExtendedKey

/-- A derivation that yields no key, which no seed is known for. -/
def outOfRange : WalletError :=
  .derivationFailed "secp256k1 error"

/-- The root of the tree whose secret and chain code are the halves of a code. -/
def ofHalves (mac : Bytes) (network : Network) : Result ExtendedKey :=
  match SecretKey.ofBytes? (mac.take 32) with
  | some secret => .ok ⟨network, 0, .normal 0, secret, mac.drop 32⟩
  | none => .error outOfRange

/-- The root of the tree that grows from a seed, for the main network unless another one is named. -/
def master (seed : Bytes) (network : Network := .mainnet) : Result ExtendedKey :=
  ofHalves (hmacSha512 (utf8 "Bitcoin seed") seed) network

/-- What the code of a child is made from: the public key, or the secret for a hardened child, and the
number. -/
def childData (key : ExtendedKey) (number : ChildNumber) : Bytes :=
  let own := match number with
    | .normal _ => key.secret.publicKey.compressed
    | .hardened _ => 0 :: key.secret.bytes
  own ++ Bytes.ofNat 4 number.number.toNat

/-- The child of a code: the first half, which has to be a secret key, is added to the secret, the second
half is the chain code. -/
def childOfHalves (key : ExtendedKey) (number : ChildNumber) (mac : Bytes) : Result ExtendedKey :=
  match (SecretKey.ofBytes? (mac.take 32)).bind fun tweak => key.secret.add? tweak.scalar with
  | some secret => .ok ⟨key.network, key.depth + 1, number, secret, mac.drop 32⟩
  | none => .error outOfRange

/-- The child with that number. -/
def child (key : ExtendedKey) (number : ChildNumber) : Result ExtendedKey :=
  key.childOfHalves number (hmacSha512 key.chainCode (key.childData number))

/-- The key that several steps lead to. -/
def descend (key : ExtendedKey) (steps : List ChildNumber) : Result ExtendedKey :=
  steps.foldlM child key

/-- The key of an address. -/
def atPath (master : ExtendedKey) (path : Path) : Result ExtendedKey := do
  master.descend (← path.children)

/-- The index of the signing key under the master key. -/
def signingIndex : UInt32 := 42

/-- The key that signs messages and opens payloads. -/
def signingKey (master : ExtendedKey) : Result ExtendedKey :=
  master.descend [.normal signingIndex]

/-- The point of the key. -/
def publicKey (key : ExtendedKey) : PublicKey :=
  key.secret.publicKey

/-- The hash of the compressed public key. -/
def keyHash (key : ExtendedKey) : KeyHash :=
  hash160 key.publicKey.compressed

/-- The written form of the signature of a message. The error stands for a search that never ends, for
which there is no answer. -/
def sign (master : ExtendedKey) (message : Bytes) : Result Bytes := do
  let key ← master.signingKey
  match key.secret.sign? message with
  | some signature => return signature.der
  | none => throw (.derivationFailed "no signature")

/-- A description that keeps the secret and the chain code back. -/
def description (key : ExtendedKey) : String :=
  Text.describePartly "ExtendedKey"
    [("depth", Decimal.text key.depth), ("child_number", key.childNumber.description)]

end ExtendedKey

end SeedWallet
