import SeedWallet.Proofs.Mnemonics
import SeedWallet.Proofs.PathText
import SeedWallet.Proofs.ProfileSwaps
import SeedWallet.Proofs.PublicKeys
import SeedWallet.Proofs.SealedPayloads

/-!
# The key of a record belongs to its path

A record carries a public key as text, and a path. Whoever seals a payload for the text, seals it for the
key that the wallet derives along the path, also if the path has been written down in between and other
profiles have been installed. The same holds of the key that a wallet signs with: its text is what others
seal payloads for, and what the wallet's own payloads end in.

- `Envelope.decrypt_of_encrypt`: a payload is opened by the key that it was made for.
- `Wallet.SealedFor`: payloads for the owner of a text, from a wallet or from entropy.
- `Wallet.Reachable`: texts that there are payloads for.
- `Wallet.opens_what_is_sealed_for_it`: what is sealed for a wallet is opened by it.
-/

namespace SeedWallet

/-- A payload is opened by the key that it was made for. -/
theorem Envelope.decrypt_of_encrypt {body payload : Bytes} {a b : SecretKey}
    {nonce : FixedBytes nonceSize} (h : encrypt body a b.publicKey nonce = .ok payload) :
    decrypt payload b = .ok body := by
  obtain ⟨sealed, hsealed, rfl⟩ := (encrypt_eq_ok_iff ..).mp h
  have htag : Gcm.tagSize ≤ sealed.length := by
    rw [Gcm.length_of_seal? (a.length_shared b.publicKey) nonce.property hsealed, Gcm.tagSize]
    omega
  rw [decrypt_frame_eq_ok_iff nonce sealed a.publicKey htag, ← SecretKey.shared_comm]
  exact Gcm.open?_of_seal? (a.length_shared b.publicKey) nonce.property hsealed

namespace Wallet

/-! ## Payloads for the owner of a text -/

/-- The payload of a body for the owner of the text, from a wallet or from a key made out of entropy. -/
inductive SealedFor (recipient : String) (body payload : Bytes) : Prop
  | wallet (a : Wallet) (nonce : FixedBytes Envelope.nonceSize)
      (h : a.encrypt body recipient nonce = .ok payload)
  | ephemeral (entropy : Bytes) (nonce : FixedBytes Envelope.nonceSize)
      (h : encryptEphemeral body entropy recipient nonce = .ok payload)

/-- Every body within the limit of the cipher can be sealed for the owner of the text: by every wallet
that has a signing key, and with all entropy of a supported length that a master key grows from. -/
def Reachable (recipient : String) : Prop :=
  ∀ body : Bytes, body.length ≤ 2 ^ 36 - 32 → ∀ nonce,
    (∀ (a : Wallet) secret, a.signingSecret = .ok secret →
      ∃ payload, a.encrypt body recipient nonce = .ok payload) ∧
    (∀ (m : Mnemonic) master, ExtendedKey.master m.seed = .ok master →
      ∃ payload, encryptEphemeral body m.entropy recipient nonce = .ok payload)

theorem encrypt_eq_ok_iff (a : Wallet) (body : Bytes) (key : PublicKey)
    (nonce : FixedBytes Envelope.nonceSize) (payload : Bytes) :
    a.encrypt body key.hex nonce = .ok payload ↔
      ∃ sender, a.signingSecret = .ok sender ∧
        Envelope.encrypt body sender key nonce = .ok payload := by
  rw [encrypt, key.parse_hex, Result.ok_bind, Result.bind_eq_ok_iff]

theorem seedOfPhrase_phrase (m : Mnemonic) : seedOfPhrase m.phrase = .ok m.seed := by
  rw [seedOfPhrase, m.parse_phrase]

/-- The phrase between entropy and the sender's key does not show. -/
theorem encryptEphemeral_eq_ok_iff (body entropy : Bytes) (key : PublicKey)
    (nonce : FixedBytes Envelope.nonceSize) (payload : Bytes) :
    encryptEphemeral body entropy key.hex nonce = .ok payload ↔
      ∃ m : Mnemonic, m.entropy = entropy ∧ ∃ sender, ExtendedKey.master m.seed = .ok sender ∧
        Envelope.encrypt body sender.secret key nonce = .ok payload := by
  rw [encryptEphemeral, key.parse_hex, Result.ok_bind]
  cases hentropy : Mnemonic.ofEntropy entropy with
  | error fault =>
    constructor
    · intro h
      cases h
    · rintro ⟨m, hm, -⟩
      rw [(Mnemonic.ofEntropy_eq_ok_iff entropy m).mpr hm] at hentropy
      cases hentropy
  | ok m =>
    dsimp only
    rw [seedOfPhrase_phrase, Result.ok_bind, Result.bind_eq_ok_iff]
    constructor
    · rintro ⟨sender, hsender, h⟩
      exact ⟨m, (Mnemonic.ofEntropy_eq_ok_iff entropy m).mp hentropy, sender, hsender, h⟩
    · rintro ⟨m', hm', sender, hsender, h⟩
      rw [(Mnemonic.ofEntropy_eq_ok_iff entropy m').mpr hm', Except.ok.injEq] at hentropy
      subst hentropy
      exact ⟨sender, hsender, h⟩

/-- What is sealed for a key in digits is sealed for the key. -/
theorem exists_encrypt_of_sealedFor {key : PublicKey} {body payload : Bytes}
    (h : SealedFor key.hex body payload) :
    ∃ sender nonce, Envelope.encrypt body sender key nonce = .ok payload := by
  cases h with
  | wallet a nonce h =>
    obtain ⟨sender, -, h⟩ := (encrypt_eq_ok_iff a body key nonce payload).mp h
    exact ⟨sender, nonce, h⟩
  | ephemeral entropy nonce h =>
    obtain ⟨m, -, sender, -, h⟩ := (encryptEphemeral_eq_ok_iff body entropy key nonce payload).mp h
    exact ⟨sender.secret, nonce, h⟩

/-- So it is opened by the secret of the key. -/
theorem decrypt_of_sealedFor {secret : SecretKey} {body payload : Bytes}
    (h : SealedFor secret.publicKey.hex body payload) :
    Envelope.decrypt payload secret = .ok body := by
  obtain ⟨sender, nonce, h⟩ := exists_encrypt_of_sealedFor h
  exact Envelope.decrypt_of_encrypt h

theorem exists_encrypt {body : Bytes} (h : body.length ≤ 2 ^ 36 - 32) (sender : SecretKey)
    (key : PublicKey) (nonce : FixedBytes Envelope.nonceSize) :
    ∃ payload, Envelope.encrypt body sender key nonce = .ok payload := by
  obtain ⟨sealed, hsealed⟩ := Gcm.exists_seal? h (sender.shared key) nonce.val
  exact ⟨_, (Envelope.encrypt_eq_ok_iff ..).mpr ⟨sealed, hsealed, rfl⟩⟩

/-- There are payloads for every key in digits. -/
theorem reachable_hex (key : PublicKey) : Reachable key.hex := by
  intro body hbody nonce
  constructor
  · intro a secret hsecret
    obtain ⟨payload, h⟩ := exists_encrypt hbody secret key nonce
    exact ⟨payload, (encrypt_eq_ok_iff ..).mpr ⟨secret, hsecret, h⟩⟩
  · intro m master hmaster
    obtain ⟨payload, h⟩ := exists_encrypt hbody master.secret key nonce
    exact ⟨payload, (encryptEphemeral_eq_ok_iff ..).mpr ⟨m, rfl, master, hmaster, h⟩⟩

/-! ## Keys along a run -/

@[simp] theorem master_after (w : Wallet) (ops : List Operation) : (w.after ops).master = w.master := by
  rw [after_eq_install]
  rfl

/-- The key of a record is that of its path. -/
theorem exists_key_of_answers {w : Wallet} {ops : List Operation} {k : Nat} {m : AddressRecord}
    (h : (w.answers ops)[k]? = some (.record (.ok m))) :
    ∃ key, w.master.atPath m.path = .ok key ∧ m.publicKey = key.publicKey.hex := by
  have hop := h
  rw [getElem?_answers] at hop
  obtain ⟨op, hop, -⟩ := Option.map_eq_some_iff.mp hop
  obtain ⟨-, chain, index, key, -, -, hkey, hpublic, -⟩ := record_of_answers hop h
  exact ⟨key, hkey, hpublic⟩

/-- The published key is that of the signing key, along the whole run. -/
theorem verificationKey_after_eq_ok_iff (w : Wallet) (ops : List Operation) (text : String) :
    (w.after ops).verificationKey = .ok text ↔
      ∃ secret, w.signingSecret = .ok secret ∧ text = secret.publicKey.hex := by
  rw [verificationKey, signingPublicKey, signingSecret, master_after]
  cases w.master.signingKey with
  | error e => simp [Except.map]
  | ok key => simp [Except.map, ExtendedKey.publicKey, eq_comm]

theorem signingSecret_after (w : Wallet) (ops : List Operation) :
    (w.after ops).signingSecret = w.signingSecret := by
  rw [signingSecret, signingSecret, master_after]

/-- **What is sealed for a wallet is opened by it.** A body that is sealed for the public key of a record
which a wallet hands out at any point of a run is opened by that wallet, after any run, along the path of
the record, and along the path that is read from its written form. A body that is sealed for the
published key is opened by the signing key. In both cases there are payloads for every body within the
limit of the cipher. And what a wallet seals ends in the key that it publishes. -/
theorem opens_what_is_sealed_for_it :
    (∀ (w : Wallet) ops (k : Nat) m, (w.answers ops)[k]? = some (.record (.ok m)) →
      Reachable m.publicKey ∧
      ∀ body payload, SealedFor m.publicKey body payload → ∀ run,
        (w.after run).decryptAt payload m.path = .ok body ∧
        ∃ path, Path.parse m.path.text = .ok path ∧
          (w.after run).decryptAt payload path = .ok body) ∧
    (∀ (w : Wallet) ops text, (w.after ops).verificationKey = .ok text →
      Reachable text ∧
      ∀ body payload, SealedFor text body payload → ∀ run,
        (w.after run).decrypt payload = .ok body) ∧
    (∀ (w : Wallet) ops body recipient nonce payload,
      (w.after ops).encrypt body recipient nonce = .ok payload →
      ∃ key : PublicKey, payload.drop (payload.length - 65) = key.uncompressed ∧
        PublicKey.parse key.hex = .ok key ∧ ∀ run, (w.after run).verificationKey = .ok key.hex) := by
  refine ⟨?_, ?_, ?_⟩
  · intro w ops k m h
    -- profiles come and go, but keys are derived from the master key, which stays
    obtain ⟨key, hkey, hpublic⟩ := exists_key_of_answers h
    rw [hpublic]
    refine ⟨reachable_hex _, fun body payload hsealed run => ?_⟩
    have hopen : (w.after run).decryptAt payload m.path = .ok body := by
      rw [decryptAt, master_after, hkey, Result.ok_bind]
      exact decrypt_of_sealedFor hsealed
    exact ⟨hopen, m.path, m.path.parse_text, hopen⟩
  · intro w ops text h
    obtain ⟨secret, hsecret, rfl⟩ := (verificationKey_after_eq_ok_iff w ops text).mp h
    refine ⟨reachable_hex _, fun body payload hsealed run => ?_⟩
    rw [decrypt, signingSecret_after, hsecret, Result.ok_bind]
    exact decrypt_of_sealedFor hsealed
  · intro w ops body recipient nonce payload h
    rw [encrypt, signingSecret_after, Result.bind_eq_ok_iff] at h
    obtain ⟨key, -, h⟩ := h
    obtain ⟨sender, hsender, h⟩ := Result.bind_eq_ok_iff.mp h
    obtain ⟨sealed, -, rfl⟩ := (Envelope.encrypt_eq_ok_iff ..).mp h
    exact ⟨sender.publicKey, Envelope.drop_frame nonce sealed sender.publicKey,
      PublicKey.parse_hex _, fun run =>
        (verificationKey_after_eq_ok_iff w run _).mpr ⟨sender, hsender, rfl⟩⟩

end Wallet

end SeedWallet
