import SeedWallet.Cipher.Gcm
import SeedWallet.Curve.SecretKey
import SeedWallet.PublicKeyText

/-!
# Sealed payloads

A body is sealed for the owner of a public key. The payload is a nonce, the sealed body and the
sender's public key; sender and recipient come to the same cipher key from opposite sides.

- `Envelope.encrypt`: the payload of a body.
- `Envelope.decrypt`: the body of a payload.
-/

namespace SeedWallet.Envelope

/-- Bytes of the nonce in front of the sealed body. -/
def nonceSize : Nat := 12

/-- Bytes of the sender's public key behind it. -/
def senderSize : Nat := 65

/-- The failure of a cipher that does not work on what it is given. -/
def cipherFailure : String := "aead::Error"

/-- The payload of a body for a recipient. -/
def encrypt (body : Bytes) (sender : SecretKey) (recipient : PublicKey) (nonce : FixedBytes nonceSize) :
    Result Bytes :=
  match Gcm.seal? (sender.shared recipient) nonce.val body with
  | some sealed => .ok (nonce.val ++ sealed ++ sender.publicKey.uncompressed)
  | none => .error (.encryptionFailed cipherFailure)

/-- The body of a payload for the owner of the key. The sender's public key is read from the end of
the payload, after its length has been checked. -/
def decrypt (payload : Bytes) (key : SecretKey) : Result Bytes :=
  if payload.length < nonceSize + Gcm.tagSize + senderSize then
    .error (.decryptionFailed
      ("payload too short: " ++ Decimal.text payload.length ++ " bytes"))
  else
    let framed := payload.take (payload.length - senderSize)
    match PublicKey.ofBytes? (payload.drop (payload.length - senderSize)) with
    | none => .error PublicKey.malformed
    | some sender =>
      match Gcm.open? (key.shared sender) (framed.take nonceSize) (framed.drop nonceSize) with
      | some body => .ok body
      | none => .error (.decryptionFailed cipherFailure)

end SeedWallet.Envelope
