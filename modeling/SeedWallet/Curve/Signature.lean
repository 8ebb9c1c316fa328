import SeedWallet.Curve.SecretKey
import SeedWallet.Digits
import SeedWallet.Hash.Hmac

/-!
# Signatures

ECDSA over the SHA-256 hash of a message. The number that a signature is made with comes from the key
and the message alone, so a message has one signature. Of the two signatures that differ in the sign
of `s` only the one with the lower `s` counts.

- `Signature`: a pair of scalars in range, `s` in the lower half.
- `Signature.der`, `Signature.ofDer?`: the written form; there is one for each signature, and nothing
  else is read.
- `NonceSource.search?`: what is made of the first number that will do; the search has no bound.
- `SecretKey.sign?`: the signature of a message.
- `PublicKey.verifies`: whether a signature is the key's for a message.
-/

namespace SeedWallet

/-- A signature. -/
structure Signature where
  r : Scalar
  s : Scalar
  r_ne_zero : r ≠ 0
  s_ne_zero : s ≠ 0
  s_low : s.val ≤ curveOrder / 2

namespace Signature

/-- The signature of that pair, if it is in range. -/
def ofPair? (r s : Scalar) : Option Signature :=
  if h : r ≠ 0 ∧ s ≠ 0 ∧ s.val ≤ curveOrder / 2 then some ⟨r, s, h.1, h.2.1, h.2.2⟩ else none

/-! ## The written form -/

/-- The shortest two's complement of a positive number. -/
def integerBytes (n : Nat) : Bytes :=
  let bs := (Digits.ofNat 256 n).map UInt8.ofNat
  match bs with
  | b :: _ => if 128 ≤ b then 0 :: bs else bs
  | [] => [0]

/-- A tag, the length of the contents and the contents, of which there are fewer than 128 bytes. -/
def element (tag : UInt8) (contents : Bytes) : Bytes :=
  tag :: UInt8.ofNat contents.length :: contents

/-- The written form of a signature. -/
def der (sig : Signature) : Bytes :=
  element 0x30 (element 0x02 (integerBytes sig.r.val) ++ element 0x02 (integerBytes sig.s.val))

/-- The contents of an element with that tag, and what follows it. -/
def readElement (tag : UInt8) : Bytes → Option (Bytes × Bytes)
  | t :: n :: rest =>
    if t = tag ∧ n < 128 ∧ n.toNat ≤ rest.length then some (rest.take n.toNat, rest.drop n.toNat)
    else none
  | _ => none

/-- Whether bytes are the shortest two's complement of a number that is not negative. -/
def isShortest : Bytes → Bool
  | [] => false
  | [b] => b < 128
  | b :: c :: _ => b < 128 && (b != 0 || 128 ≤ c)

/-- A scalar at the front, and what follows it. -/
def readScalar (bs : Bytes) : Option (Scalar × Bytes) :=
  match readElement 0x02 bs with
  | some (contents, rest) =>
    if h : Bytes.toNat contents < curveOrder then
      if isShortest contents then some (⟨Bytes.toNat contents, h⟩, rest) else none
    else none
  | none => none

/-- The signature whose written form the bytes are. -/
def ofDer? (bs : Bytes) : Option Signature :=
  match readElement 0x30 bs with
  | some (contents, []) => do
    let (r, rest) ← readScalar contents
    let (s, rest) ← readScalar rest
    if rest = [] then ofPair? r s else none
  | _ => none

end Signature

/-! ## Numbers to sign with -/

/-- A keyed generator of numbers. -/
structure NonceSource where
  key : Bytes
  value : Bytes

namespace NonceSource

/-- Stirs the generator with some bytes. -/
def stir (g : NonceSource) (seed : Bytes) : NonceSource :=
  let key := hmacSha256 g.key (g.value ++ seed)
  ⟨key, hmacSha256 key g.value⟩

/-- The generator for a key and the hash of a message. -/
def start (secret digest : Bytes) : NonceSource :=
  let g : NonceSource := ⟨List.replicate 32 0, List.replicate 32 1⟩
  (g.stir (0 :: (secret ++ digest))).stir (1 :: (secret ++ digest))

/-- The next value. -/
def next (g : NonceSource) : NonceSource :=
  { g with value := hmacSha256 g.key g.value }

/-- What is made of the first of the generator's values that something is made of. Nothing bounds the
search, and `none` is the answer to one that never ends. -/
def search? {α : Type} (attempt : Bytes → Option α) (g : NonceSource) : Option α :=
  match attempt g.next.value with
  | some found => some found
  | none => g.next.stir [0] |>.search? attempt
partial_fixpoint

end NonceSource

/-! ## Signing and verifying -/

/-- The scalar of a message. -/
def messageScalar (message : Bytes) : Scalar :=
  .ofNat (Bytes.toNat (sha256 message))

namespace SecretKey

/-- The signature made with a given number, which now and then there is none for. -/
def signWith? (key : SecretKey) (message : Scalar) (nonce : Scalar) : Option Signature :=
  ((Jacobian.ofPublicKey .generator).multiple nonce.val).toPublicKey?.bind fun point =>
    let r := Scalar.ofNat point.x.val
    let s := Modular.inverse nonce * (message + r * key.scalar)
    Signature.ofPair? r (if s.val ≤ curveOrder / 2 then s else -s)

/-- The signature made with the number that the bytes are, if it is one that a secret key may be. -/
def signWithBytes? (key : SecretKey) (message : Scalar) (value : Bytes) : Option Signature :=
  (ofBytes? value).bind fun nonce => key.signWith? message nonce.scalar

/-- The signature of a message. -/
def sign? (key : SecretKey) (message : Bytes) : Option Signature :=
  (NonceSource.start key.bytes (sha256 message)).search?
    (key.signWithBytes? (messageScalar message))

end SecretKey

namespace PublicKey

/-- Whether the signature is the key's for the message. -/
def verifies (key : PublicKey) (message : Bytes) (sig : Signature) : Bool :=
  let w := Modular.inverse sig.s
  let u := messageScalar message * w
  let v := sig.r * w
  let point := ((Jacobian.ofPublicKey .generator).multiple u.val).add
    ((Jacobian.ofPublicKey key).multiple v.val)
  match point.toPublicKey? with
  | some p => Scalar.ofNat p.x.val = sig.r
  | none => false

/-- Whether the bytes are the written form of such a signature. -/
def verifiesDer (key : PublicKey) (message der : Bytes) : Bool :=
  match Signature.ofDer? der with
  | some sig => key.verifies message sig
  | none => false

end PublicKey

end SeedWallet
