import SeedWallet.Curve.Point
import SeedWallet.Hash.Sha256

/-!
# Secret keys of secp256k1

- `Scalar`: the numbers below the group order, with arithmetic modulo it.
- `SecretKey`: a scalar that is not zero; `SecretKey.ofBytes?` and `SecretKey.bytes` are its 32-byte
  form.
- `SecretKey.publicKey`: the generator multiplied with the key.
- `SecretKey.shared`: what two parties compute from their own secret key and the other's public key.
-/

namespace SeedWallet

/-- How many points the curve has, the neutral element included: a prime. -/
def curveOrder : Nat :=
  0xfffffffffffffffffffffffffffffffebaaedce6af48a03bbfd25e8cd0364141

instance : NeZero curveOrder := ⟨by decide⟩

/-- A number of times that a point may be added to itself. -/
abbrev Scalar := Fin curveOrder

/-- The scalar that a number is congruent to. -/
def Scalar.ofNat (n : Nat) : Scalar :=
  ⟨n % curveOrder, Nat.mod_lt _ (by decide)⟩

/-- A scalar that is not zero. -/
structure SecretKey where
  scalar : Scalar
  nonzero : scalar ≠ 0
  deriving DecidableEq

/-- The point added to itself as often as the key says. The group order is prime, so the neutral
element is not reached and the given point is never what `getD` falls back on. -/
def PublicKey.times (p : PublicKey) (k : SecretKey) : PublicKey :=
  ((Jacobian.ofPublicKey p).multiple k.scalar.val).toPublicKey?.getD p

namespace SecretKey

/-- The key with that scalar. -/
def ofScalar? (s : Scalar) : Option SecretKey :=
  if h : s ≠ 0 then some ⟨s, h⟩ else none

/-- The key whose bytes these are: a number that is neither zero nor as large as the group order. -/
def ofBytes? (bs : Bytes) : Option SecretKey :=
  if h : Bytes.toNat bs < curveOrder then ofScalar? ⟨Bytes.toNat bs, h⟩ else none

/-- The 32 bytes of the key. -/
def bytes (k : SecretKey) : Bytes :=
  Bytes.ofNat 32 k.scalar.val

/-- The point of the key. -/
def publicKey (k : SecretKey) : PublicKey :=
  PublicKey.generator.times k

/-- The secret shared with the owner of a public key: the hash of the common point. -/
def shared (k : SecretKey) (p : PublicKey) : Bytes :=
  sha256 (p.times k).compressed

/-- The key moved on by a scalar, unless the sum is zero. -/
def add? (k : SecretKey) (s : Scalar) : Option SecretKey :=
  ofScalar? (s + k.scalar)

@[simp] theorem length_bytes (k : SecretKey) : k.bytes.length = 32 :=
  Bytes.length_ofNat 32 _

@[simp] theorem length_shared (k : SecretKey) (p : PublicKey) : (k.shared p).length = 32 :=
  length_sha256 _

theorem toNat_bytes (k : SecretKey) : Bytes.toNat k.bytes = k.scalar.val := by
  rw [bytes, Bytes.toNat_ofNat]
  exact Nat.mod_eq_of_lt (Nat.lt_trans k.scalar.isLt (by decide))

/-- The bytes of a key are read as that key. -/
@[simp] theorem ofBytes?_bytes (k : SecretKey) : ofBytes? k.bytes = some k := by
  simp [ofBytes?, toNat_bytes, ofScalar?, k.nonzero]

end SecretKey

end SeedWallet
