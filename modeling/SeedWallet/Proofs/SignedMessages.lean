import SeedWallet.Proofs.RecordKeys
import SeedWallet.Proofs.SignatureText
import SeedWallet.Proofs.Signatures

/-!
# Messages signed by a wallet

A wallet signs with one key of its tree. If there is that key, and the generator of numbers comes to one
that suits the message, the message is signed, the published key verifies the signature as it is written,
and the same message has the same signature whatever the wallet is asked in between.

- `Hex.isLowerDigit_of_mem_encode`: digits are written in lower case.
- `ExtendedKey.exists_sign`: a key signs a message.
- `Wallet.signature_verifies`: what a wallet signs verifies.
- `Wallet.OfOne`: one wallet's first number, computed step by step.
-/

namespace SeedWallet

/-! ## Digits -/

namespace Hex

/-- A digit as it is written: those above nine are small letters. -/
def IsLowerDigit (c : Char) : Prop :=
  ('0' ≤ c ∧ c ≤ '9') ∨ ('a' ≤ c ∧ c ≤ 'f')

instance (c : Char) : Decidable (IsLowerDigit c) :=
  inferInstanceAs (Decidable (_ ∨ _))

theorem isLowerDigit_digit {n : Nat} (h : n < 16) : IsLowerDigit (digit n) := by
  have all : ∀ m : Fin 16, IsLowerDigit (digit m) := by decide
  exact all ⟨n, h⟩

/-- Digits are written in lower case. -/
theorem isLowerDigit_of_mem_encode {bs : Bytes} {c : Char} (h : c ∈ (encode bs).toList) :
    IsLowerDigit c := by
  rw [encode, String.toList_ofList] at h
  obtain ⟨b, -, hc⟩ := List.mem_flatMap.mp h
  have hb := b.toNat_lt
  simp only [encodeByte, List.mem_cons, List.not_mem_nil, or_false] at hc
  rcases hc with rfl | rfl
  · exact isLowerDigit_digit (by omega)
  · exact isLowerDigit_digit (by omega)

end Hex

/-! ## Signatures -/

/-- A key that signs has a signature for the message, if a number comes that makes one, and its public key
accepts what is written. -/
theorem ExtendedKey.exists_sign {master key : ExtendedKey} (h : master.signingKey = .ok key)
    {message : Bytes} (hmeets : key.secret.MeetsSuitable message) :
    ∃ sig : Signature, master.sign message = .ok sig.der ∧
      key.publicKey.verifiesDer message sig.der = true := by
  obtain ⟨sig, hsig⟩ := (key.secret.exists_sign?_iff message).mpr hmeets
  refine ⟨sig, ?_, ?_⟩
  · rw [sign, h, Result.ok_bind, hsig]
    rfl
  · exact (PublicKey.verifiesDer_eq_true_iff ..).mpr ⟨sig, rfl, SecretKey.verifies_of_sign? hsig⟩

namespace Wallet

/-- **What a wallet signs verifies.** If the wallet has a signing key, and the numbers that its generator
yields for the message come to one that suits it, then the message has a signature with scalars in range,
the second one in the lower half, which is read back from its written form and accepted by the signing
key's public key. After any run of operations the message has the same signature, and the wallet still
publishes that key. In digits the signature is the same, written in lower case. -/
theorem signature_verifies {w : Wallet} {key : ExtendedKey} (h : w.master.signingKey = .ok key)
    (message : Bytes) (hmeets : key.secret.MeetsSuitable message) :
    ∃ sig : Signature, w.master.sign message = .ok sig.der ∧
      key.publicKey.verifiesDer message sig.der = true ∧
      Signature.ofDer? sig.der = some sig ∧
      (0 < sig.r.val ∧ sig.r.val < curveOrder) ∧ (0 < sig.s.val ∧ sig.s.val ≤ curveOrder / 2) ∧
      ∀ run, (w.after run).signingPublicKey = .ok key.publicKey ∧
        (w.after run).sign message = .ok sig.der ∧
        ∃ text, (w.after run).signHex message = .ok text ∧ Hex.decode? text = .ok sig.der ∧
          ∀ c ∈ text.toList, Hex.IsLowerDigit c := by
  obtain ⟨sig, hsign, hverifies⟩ := ExtendedKey.exists_sign h hmeets
  refine ⟨sig, hsign, hverifies, (Signature.ofDer?_eq_some_iff _ sig).mpr rfl,
    ⟨Fin.pos_iff_ne_zero.mpr sig.r_ne_zero, sig.r.isLt⟩,
    ⟨Fin.pos_iff_ne_zero.mpr sig.s_ne_zero, sig.s_low⟩, ?_⟩
  intro run
  -- a run changes the profile, and no signature is made with that
  have hsame : (w.after run).sign message = .ok sig.der := by
    rw [sign, master_after]
    exact hsign
  refine ⟨?_, hsame, Hex.encode sig.der, ?_, Hex.decode?_encode _, fun c hc =>
    Hex.isLowerDigit_of_mem_encode hc⟩
  · rw [signingPublicKey, master_after, h]
    rfl
  · rw [signHex, hsame]
    rfl

namespace OfOne

/-- The master key one, without a chain code. -/
def master : ExtendedKey where
  network := .mainnet
  depth := 0
  childNumber := .normal 0
  secret := ⟨1, by decide⟩
  chainCode := []

/-- Its signing key. -/
def signing : { key // master.child (.normal ExtendedKey.signingIndex) = .ok key } where
  val :=
    { network := .mainnet
      depth := 1
      childNumber := .normal 42
      secret := ⟨0x968ceabb2f76fdea8f6d2fe52504b955b6b55e54e6e890ec41f68f4acebd8eb7, by decide⟩
      chainCode := Bytes.ofNat 32 0xa4d4ca149506f63164ede58d68ccace7672a49d947e5b8d8316f06b5925cd81a }
  property := by decide +kernel

/-- The hash of the empty message. -/
def digest : { bs // sha256 [] = bs } where
  val := Bytes.ofNat 32 0xe3b0c44298fc1c149afbf4c8996fb92427ae41e4649b934ca495991b7852b855
  property := by decide +kernel

/-- The generator's key when it is stirred for the first time. -/
def firstKey : { bs // hmacSha256 (List.replicate 32 0)
    (List.replicate 32 1 ++ 0 :: (signing.val.secret.bytes ++ digest.val)) = bs } where
  val := Bytes.ofNat 32 0x6c469350e987014ed2480c35db044a2cf00e27cab31a5e2746dbeaa14877ffde
  property := by decide +kernel

/-- Its value then. -/
def firstValue : { bs // hmacSha256 firstKey.val (List.replicate 32 1) = bs } where
  val := Bytes.ofNat 32 0x0a82162f8b6202217f8ccc609c9e5c43e1692582ec594f391e883a4e9894675d
  property := by decide +kernel

/-- Its key when it is stirred again. -/
def secondKey : { bs // hmacSha256 firstKey.val
    (firstValue.val ++ 1 :: (signing.val.secret.bytes ++ digest.val)) = bs } where
  val := Bytes.ofNat 32 0x7233b01d66877de7716884a768ce778ed7b8ac83ca28c9cb3058f41c063863ec
  property := by decide +kernel

/-- Its value then. -/
def secondValue : { bs // hmacSha256 secondKey.val firstValue.val = bs } where
  val := Bytes.ofNat 32 0x5e6a0246f0be3997f6b7d414b2a361534bfeb36af6e05e84c0f0ce5aa59afe72
  property := by decide +kernel

/-- The first value that it yields. -/
def candidate : { bs // hmacSha256 secondKey.val secondValue.val = bs } where
  val := Bytes.ofNat 32 0xc2f3bdcc149a6aa30e56454ceb4a0d78e386085498f972020b30fd11abd63e96
  property := by decide +kernel

/-- The number that this value is. -/
def nonce : SecretKey :=
  ⟨0xc2f3bdcc149a6aa30e56454ceb4a0d78e386085498f972020b30fd11abd63e96, by decide⟩

theorem signingKey_master : master.signingKey = .ok signing.val := by
  rw [ExtendedKey.signingKey, ExtendedKey.descend_of_child signing.property, ExtendedKey.descend_nil]

theorem candidate_zero :
    (NonceSource.start signing.val.secret.bytes (sha256 [])).candidate 0 = candidate.val := by
  simp only [NonceSource.start, NonceSource.stir, NonceSource.candidate, NonceSource.next,
    digest.property, firstKey.property, firstValue.property, secondKey.property, secondValue.property,
    candidate.property]

/-- The number suits the empty message. -/
theorem suits_nonce : signing.val.secret.Suits (messageScalar []) nonce := by decide +kernel

theorem meetsSuitable : signing.val.secret.MeetsSuitable [] := by
  refine ⟨0, nonce, ?_, suits_nonce⟩
  rw [candidate_zero]
  exact SecretKey.ofBytes?_bytes nonce

end OfOne

/-- The empty message, signed under the master key one. -/
theorem signature_verifies_empty :
    (Wallet.mk "" OfOne.master .importDefault).master.signingKey = .ok OfOne.signing.val ∧
    OfOne.signing.val.secret.MeetsSuitable [] ∧
    ∃ sig, (Wallet.mk "" OfOne.master .importDefault).master.sign [] = .ok (Signature.der sig) ∧
      OfOne.signing.val.publicKey.verifiesDer [] sig.der = true := by
  obtain ⟨sig, hsign, hverifies, -⟩ :=
    signature_verifies (w := ⟨"", OfOne.master, .importDefault⟩) OfOne.signingKey_master []
      OfOne.meetsSuitable
  exact ⟨OfOne.signingKey_master, OfOne.meetsSuitable, sig, hsign, hverifies⟩

end Wallet

end SeedWallet
