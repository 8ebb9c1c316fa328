import SeedWallet.Envelope
import SeedWallet.Proofs.SharedSecrets

/-!
# Sealed payloads are opened

A payload is cut from both ends: the nonce in front and the sender's key behind have fixed sizes, and
what is between them is as long as it may be. The recipient derives the cipher key from the sender's
key as it is written in the payload, and from their own secret; it is the key that was sealed with.

- `Envelope.encrypt_eq_ok_iff`: what a payload is made of.
- `Envelope.decrypt_frame_eq_ok_iff`: how a payload of these parts is read.
- `Envelope.decrypt_encrypt`: a payload is opened by the key that it was made for.
-/

namespace SeedWallet

/-- Every body that is not too long is sealed. -/
theorem Gcm.exists_seal? {body : Bytes} (h : body.length ≤ maxBody) (key nonce : Bytes) :
    ∃ sealed, seal? key nonce body = some sealed :=
  ⟨_, if_pos h⟩

namespace Envelope

/-- A payload is the nonce, the sealed body and the sender's public key. -/
theorem encrypt_eq_ok_iff (body : Bytes) (sender : SecretKey) (recipient : PublicKey)
    (nonce : FixedBytes nonceSize) (payload : Bytes) :
    encrypt body sender recipient nonce = .ok payload ↔
      ∃ sealed, Gcm.seal? (sender.shared recipient) nonce.val body = some sealed ∧
        payload = nonce.val ++ sealed ++ sender.publicKey.uncompressed := by
  rw [encrypt]
  cases Gcm.seal? (sender.shared recipient) nonce.val body with
  | none => simp
  | some sealed => simp [eq_comm]

section

variable (front : Bytes) {suffix : Bytes}

/-- Where the last bytes of a payload are cut off. -/
theorem length_sub_senderSize (h : suffix.length = senderSize) :
    (front ++ suffix).length - senderSize = front.length := by
  rw [List.length_append, h, Nat.add_sub_cancel]

theorem take_front (h : suffix.length = senderSize) :
    (front ++ suffix).take ((front ++ suffix).length - senderSize) = front := by
  rw [length_sub_senderSize front h, List.take_left]

theorem drop_front (h : suffix.length = senderSize) :
    (front ++ suffix).drop ((front ++ suffix).length - senderSize) = suffix := by
  rw [length_sub_senderSize front h, List.drop_left]

end

section

variable (nonce : FixedBytes nonceSize) (sealed : Bytes) (sender : PublicKey)

theorem length_frame :
    (nonce.val ++ sealed ++ sender.uncompressed).length = sealed.length + 77 := by
  rw [List.length_append, List.length_append, nonce.property, PublicKey.length_uncompressed,
    nonceSize]
  omega

/-- The sender's key stands behind it. -/
theorem drop_frame :
    (nonce.val ++ sealed ++ sender.uncompressed).drop
      ((nonce.val ++ sealed ++ sender.uncompressed).length - senderSize) = sender.uncompressed :=
  drop_front _ sender.length_uncompressed

/-- The nonce and the sealed body stand in front of it. -/
theorem take_frame :
    (nonce.val ++ sealed ++ sender.uncompressed).take
      ((nonce.val ++ sealed ++ sender.uncompressed).length - senderSize) = nonce.val ++ sealed :=
  take_front _ sender.length_uncompressed

/-- Of a payload with room for a tag the sealed body is opened, with the key that is shared with the
sender who is named at the end. -/
theorem decrypt_frame_eq_ok_iff (h : Gcm.tagSize ≤ sealed.length) (key : SecretKey) (body : Bytes) :
    decrypt (nonce.val ++ sealed ++ sender.uncompressed) key = .ok body ↔
      Gcm.open? (key.shared sender) nonce.val sealed = some body := by
  have hlong : ¬ (nonce.val ++ sealed ++ sender.uncompressed).length <
      nonceSize + Gcm.tagSize + senderSize := by
    rw [length_frame, nonceSize, senderSize]
    omega
  have hnonce : (nonce.val ++ sealed).take nonceSize = nonce.val :=
    List.take_left' nonce.property
  have hsealed : (nonce.val ++ sealed).drop nonceSize = sealed :=
    List.drop_left' nonce.property
  rw [decrypt, if_neg hlong, drop_frame, take_frame, PublicKey.ofBytes?_uncompressed]
  simp only [hnonce, hsealed]
  cases Gcm.open? (key.shared sender) nonce.val sealed <;> simp

end

/-- **A payload is opened by the key that it was made for.** Every body within the limit of the cipher
has a payload, for any two keys and any nonce. It is longer by the nonce, the tag and the sender's key,
which it ends with, and the recipient's key gives the body back. -/
theorem decrypt_encrypt {body : Bytes} (h : body.length ≤ 2 ^ 36 - 32) (a b : SecretKey)
    (nonce : FixedBytes nonceSize) :
    ∃ payload, encrypt body a b.publicKey nonce = .ok payload ∧
      payload.length = body.length + 93 ∧
      payload.drop (payload.length - 65) = a.publicKey.uncompressed ∧
      decrypt payload b = .ok body := by
  obtain ⟨sealed, hsealed⟩ := Gcm.exists_seal? h (a.shared b.publicKey) nonce.val
  have hlength : sealed.length = body.length + 16 :=
    Gcm.length_of_seal? (a.length_shared b.publicKey) nonce.property hsealed
  refine ⟨_, (encrypt_eq_ok_iff ..).mpr ⟨sealed, hsealed, rfl⟩, ?_, ?_, ?_⟩
  · rw [length_frame, hlength]
  · exact drop_frame nonce sealed a.publicKey
  · have htag : Gcm.tagSize ≤ sealed.length := by
      rw [hlength, Gcm.tagSize]
      omega
    rw [decrypt_frame_eq_ok_iff nonce sealed a.publicKey htag, ← SecretKey.shared_comm]
    exact Gcm.open?_of_seal? (a.length_shared b.publicKey) nonce.property hsealed

/-- A body of two blocks, the second of which is not full. -/
theorem decrypt_encrypt_seventeen :
    (List.replicate 17 0x61 : Bytes).length ≤ 2 ^ 36 - 32 ∧
      ∃ payload, encrypt (List.replicate 17 0x61) ⟨5, by decide⟩
          (SecretKey.publicKey ⟨7, by decide⟩) ⟨List.replicate 12 0, rfl⟩ = .ok payload ∧
        payload.length = (List.replicate 17 0x61 : Bytes).length + 93 ∧
        payload.drop (payload.length - 65) =
          (SecretKey.publicKey ⟨5, by decide⟩).uncompressed ∧
        decrypt payload ⟨7, by decide⟩ = .ok (List.replicate 17 0x61) :=
  ⟨by decide, decrypt_encrypt (by decide) _ _ _⟩

end Envelope

end SeedWallet
