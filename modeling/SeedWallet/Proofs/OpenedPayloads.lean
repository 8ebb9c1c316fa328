import SeedWallet.Proofs.KeyPairs
import SeedWallet.Proofs.SealedPayloads

/-!
# Which payloads are opened

A payload is opened exactly if what stands between its nonce and the sender's key is the sealed form of a
body, and each body has one. Besides the body the tag protects the nonce and, through the key that both
sides derive from it, the sender's point. It does not protect how that point is written: the reader of
public keys takes two forms of 65 bytes, of which only one is ever sent.

- `Envelope.Authentic`, `Envelope.Refused`: when a payload is opened, and as what it is refused.
- `Envelope.decryptWithin?`: opening with cuts that are checked.
- `Envelope.opens_exactly_authentic`: what is opened, what is refused, and that every cut is within the
  payload.
- `Envelope.respelled`: a payload with the sender's key in the form that is not sent.
- `Envelope.decrypt_eq_ok_iff_encrypt`: what is opened was sent, or is respelled.
- `Envelope.respelled_of_encrypt`: every payload has a second form, which is opened and never sent.
-/

namespace SeedWallet

/-- A body is opened exactly from its sealed form. -/
theorem Gcm.open?_eq_some_iff {key nonce : Bytes} (hkey : key.length = 32) (hnonce : nonce.length = 12)
    (sealed body : Bytes) :
    open? key nonce sealed = some body ↔ seal? key nonce body = some sealed :=
  ⟨seal?_of_open? hkey hnonce, open?_of_seal? hkey hnonce⟩

/-- A secret is the hash of the point that is meant. -/
theorem SecretKey.shared_eq {key : SecretKey} {sender common : PublicKey}
    (h : common.point = key.scalar.val • sender.point) : key.shared sender = sha256 common.compressed := by
  have hcommon : sender.times key = common := by
    apply PublicKey.point_injective
    rw [PublicKey.point_times_eq, h]
  rw [shared, hcommon]

namespace Envelope

/-! ## Opening and refusing -/

/-- The payload holds the body for the owner of the key: it has room for all of its parts, ends with a
public key, and the rest is its nonce and what the body is sealed to under that nonce and the hash of the
common point. -/
def Authentic (payload : Bytes) (key : SecretKey) (body : Bytes) : Prop :=
  93 ≤ payload.length ∧ ∃ sender common : PublicKey, ∃ sealed : Bytes,
    PublicKey.ofBytes? (payload.drop (payload.length - 65)) = some sender ∧
    common.point = key.scalar.val • sender.point ∧
    Gcm.seal? (sha256 common.compressed) (payload.take 12) body = some sealed ∧
    payload.take (payload.length - 65) = payload.take 12 ++ sealed

/-- As what a payload is refused. -/
inductive Refused (payload : Bytes) (key : SecretKey) : WalletError → Prop where
  /-- It is too short, whatever it ends with. -/
  | short (length : payload.length < 93) :
    Refused payload key (.decryptionFailed
      ("payload too short: " ++ Decimal.text payload.length ++ " bytes"))
  /-- It does not end with a public key. -/
  | noSender (length : 93 ≤ payload.length)
    (sender : PublicKey.ofBytes? (payload.drop (payload.length - 65)) = none) :
    Refused payload key (.invalidPublicKey "malformed public key")
  /-- It ends with a public key and holds no body. -/
  | forged (length : 93 ≤ payload.length)
    (sender : PublicKey.ofBytes? (payload.drop (payload.length - 65)) ≠ none)
    (body : ∀ body, ¬ Authentic payload key body) :
    Refused payload key (.decryptionFailed "aead::Error")

section

variable {payload : Bytes} {key : SecretKey}

theorem decrypt_of_short (h : payload.length < 93) :
    decrypt payload key = .error (.decryptionFailed
      ("payload too short: " ++ Decimal.text payload.length ++ " bytes")) :=
  if_pos h

/-- A payload that is long enough is cut up. -/
theorem decrypt_of_long (h : 93 ≤ payload.length) :
    decrypt payload key =
      match PublicKey.ofBytes? (payload.drop (payload.length - 65)) with
      | none => .error (.invalidPublicKey "malformed public key")
      | some sender =>
        match Gcm.open? (key.shared sender) ((payload.take (payload.length - 65)).take 12)
          ((payload.take (payload.length - 65)).drop 12) with
        | some body => .ok body
        | none => .error (.decryptionFailed "aead::Error") :=
  if_neg (Nat.not_lt.mpr h)

/-- The nonce is in front of the sender's key. -/
theorem take_take (h : 93 ≤ payload.length) :
    (payload.take (payload.length - 65)).take 12 = payload.take 12 := by
  rw [List.take_take, Nat.min_eq_left (by omega)]

/-- Whether a payload of a known sender holds a body is a question to the cipher. -/
theorem authentic_iff_open? (h : 93 ≤ payload.length) {sender : PublicKey}
    (hsender : PublicKey.ofBytes? (payload.drop (payload.length - 65)) = some sender) (body : Bytes) :
    Authentic payload key body ↔
      Gcm.open? (key.shared sender) ((payload.take (payload.length - 65)).take 12)
        ((payload.take (payload.length - 65)).drop 12) = some body := by
  have hnonce : (payload.take 12).length = 12 := List.length_take_of_le (by omega)
  rw [take_take h, Gcm.open?_eq_some_iff (key.length_shared sender) hnonce]
  constructor
  · rintro ⟨-, sender', common, sealed, hsender', hcommon, hsealed, hfront⟩
    rw [hsender] at hsender'
    cases hsender'
    -- the nonce has its size, so what is behind it is the sealed body and nothing else
    rw [SecretKey.shared_eq hcommon, hfront, List.drop_left' hnonce]
    exact hsealed
  · intro hsealed
    have hcommon := PublicKey.point_times_eq sender key
    refine ⟨h, sender, sender.times key, _, hsender, hcommon, hsealed, ?_⟩
    rw [← take_take h, List.take_append_drop]

/-- A payload is opened exactly if it holds the body. -/
theorem decrypt_eq_ok_iff (body : Bytes) :
    decrypt payload key = .ok body ↔ Authentic payload key body := by
  by_cases h : 93 ≤ payload.length
  · cases hsender : PublicKey.ofBytes? (payload.drop (payload.length - 65)) with
    | none =>
      rw [decrypt_of_long h, hsender]
      constructor
      · intro hok
        cases hok
      · rintro ⟨-, sender, -, -, hsender', -⟩
        rw [hsender] at hsender'
        cases hsender'
    | some sender =>
      rw [authentic_iff_open? h hsender, decrypt_of_long h, hsender]
      dsimp only
      split
      · rename_i body' hopen
        rw [hopen, Except.ok.injEq, Option.some.injEq]
      · rename_i hopen
        rw [hopen]
        simp
  · rw [decrypt_of_short (Nat.not_le.mp h)]
    constructor
    · intro hok
      cases hok
    · intro hauthentic
      exact absurd hauthentic.1 h

/-- A payload that is not opened is refused as one of three. -/
theorem refused_of_decrypt {e : WalletError} (he : decrypt payload key = .error e) :
    Refused payload key e := by
  by_cases h : 93 ≤ payload.length
  · cases hsender : PublicKey.ofBytes? (payload.drop (payload.length - 65)) with
    | none =>
      rw [decrypt_of_long h, hsender] at he
      cases he
      exact .noSender h hsender
    | some sender =>
      -- any body that the payload held would have been opened
      have hforged : ∀ body, ¬ Authentic payload key body := by
        intro body hauthentic
        rw [(decrypt_eq_ok_iff body).mpr hauthentic] at he
        cases he
      rw [decrypt_of_long h, hsender] at he
      dsimp only at he
      split at he
      · cases he
      · cases he
        exact .forged h (by simp [hsender]) hforged
  · rw [decrypt_of_short (Nat.not_le.mp h)] at he
    cases he
    exact .short (Nat.not_le.mp h)

/-- As what it is refused, it fails; so the three exclude each other. -/
theorem decrypt_of_refused {e : WalletError} (he : Refused payload key e) :
    decrypt payload key = .error e := by
  cases he with
  | short h => exact decrypt_of_short h
  | noSender h hsender => rw [decrypt_of_long h, hsender]
  | forged h hsender hforged =>
    obtain ⟨sender, hsender⟩ := Option.ne_none_iff_exists'.mp hsender
    rw [decrypt_of_long h, hsender]
    dsimp only
    split
    · rename_i body hopen
      exact absurd ((authentic_iff_open? h hsender body).mpr hopen) (hforged body)
    · rfl

end

/-! ## Every cut is within the payload -/

/-- The first `n` bytes and those behind them, if there are so many. -/
def front? (n : Nat) (bs : Bytes) : Option (FixedBytes n × Bytes) :=
  if h : n ≤ bs.length then some (⟨bs.take n, List.length_take_of_le h⟩, bs.drop n) else none

/-- The last `n` bytes and those in front of them, if there are so many. -/
def back? (n : Nat) (bs : Bytes) : Option (Bytes × FixedBytes n) :=
  if h : n ≤ bs.length then
    some (bs.take (bs.length - n), ⟨bs.drop (bs.length - n), by rw [List.length_drop]; omega⟩)
  else none

/-- The body of a payload, as `decrypt` has it, unless there are too few bytes for a cut. -/
def decryptWithin? (payload : Bytes) (key : SecretKey) : Option (Result Bytes) :=
  if payload.length < nonceSize + Gcm.tagSize + senderSize then
    some (.error (.decryptionFailed
      ("payload too short: " ++ Decimal.text payload.length ++ " bytes")))
  else
    (back? senderSize payload).bind fun (framed, suffix) =>
      match PublicKey.ofBytes? suffix.val with
      | none => some (.error PublicKey.malformed)
      | some sender =>
        (front? nonceSize framed).bind fun (nonce, sealed) =>
          match Gcm.open? (key.shared sender) nonce.val sealed with
          | some body => some (.ok body)
          | none => some (.error (.decryptionFailed cipherFailure))

/-- There are enough bytes for each cut. -/
theorem decryptWithin?_eq (payload : Bytes) (key : SecretKey) :
    decryptWithin? payload key = some (decrypt payload key) := by
  by_cases hshort : payload.length < nonceSize + Gcm.tagSize + senderSize
  · rw [decryptWithin?, decrypt, if_pos hshort, if_pos hshort]
  · have hback : senderSize ≤ payload.length :=
      Nat.le_trans (Nat.le_add_left _ _) (Nat.not_lt.mp hshort)
    -- without the sender's key there is still room for the nonce
    have hfront : nonceSize ≤ (payload.take (payload.length - senderSize)).length := by
      rw [List.length_take_of_le (Nat.sub_le ..)]
      rw [nonceSize, Gcm.tagSize, senderSize] at hshort
      rw [nonceSize, senderSize]
      omega
    rw [decryptWithin?, decrypt, if_neg hshort, if_neg hshort, back?, dif_pos hback, Option.bind_some]
    dsimp only
    cases PublicKey.ofBytes? (payload.drop (payload.length - senderSize)) with
    | none => rfl
    | some sender =>
      dsimp only
      rw [front?, dif_pos hfront, Option.bind_some]
      dsimp only
      cases Gcm.open? (key.shared sender) ((payload.take (payload.length - senderSize)).take nonceSize)
        ((payload.take (payload.length - senderSize)).drop nonceSize) <;> rfl

/-- **Exactly authentic payloads are opened.** A payload of any length is opened for a key as a body
exactly if it holds that body. Otherwise it is refused, and as what depends on its length first, on the
sender's key next and on the seal last. No cut is made where there are too few bytes. -/
theorem opens_exactly_authentic (payload : Bytes) (key : SecretKey) :
    (∀ body, decrypt payload key = .ok body ↔ Authentic payload key body) ∧
      (∀ e, decrypt payload key = .error e ↔ Refused payload key e) ∧
      decryptWithin? payload key = some (decrypt payload key) :=
  ⟨decrypt_eq_ok_iff, fun _ => ⟨refused_of_decrypt, decrypt_of_refused⟩, decryptWithin?_eq payload key⟩

/-! ## What was sent -/

/-- The payload with the sender's key in the form that is not sent. -/
def respelled (sent : Bytes) (sender : PublicKey) : Bytes :=
  sent.take (sent.length - 65) ++ sender.hybrid

/-- A payload of these parts holds the body that was sealed. -/
theorem authentic_of_parts {key : SecretKey} {sender : PublicKey} {nonce : FixedBytes nonceSize}
    {body sealed suffix : Bytes} (hsealed : Gcm.seal? (key.shared sender) nonce.val body = some sealed)
    (hsuffix : suffix.length = 65) (hsender : PublicKey.ofBytes? suffix = some sender) :
    Authentic (nonce.val ++ sealed ++ suffix) key body := by
  have hnonce : nonce.val.length = 12 := nonce.property
  have hlength : sealed.length = body.length + 16 :=
    Gcm.length_of_seal? (key.length_shared sender) hnonce hsealed
  have hfront := take_front (nonce.val ++ sealed) hsuffix
  have hback := drop_front (nonce.val ++ sealed) hsuffix
  have htake : (nonce.val ++ sealed ++ suffix).take 12 = nonce.val := by
    rw [List.append_assoc, List.take_left' hnonce]
  rw [senderSize] at hfront hback
  refine ⟨?_, sender, sender.times key, sealed, ?_, PublicKey.point_times_eq sender key, ?_, ?_⟩
  · rw [List.length_append, List.length_append, hnonce, hlength, hsuffix]
    omega
  · rw [hback, hsender]
  · rw [htake]
    exact hsealed
  · rw [hfront, htake]

/-- A payload that was sent, cut before the sender's key. -/
theorem respelled_eq (nonce : FixedBytes nonceSize) (sealed : Bytes) (sender sender' : PublicKey) :
    respelled (nonce.val ++ sealed ++ sender.uncompressed) sender' =
      nonce.val ++ sealed ++ sender'.hybrid := by
  have hfront := take_frame nonce sealed sender
  rw [senderSize] at hfront
  rw [respelled, hfront]

/-- What was sent is opened, however the sender's key is spelled. -/
theorem authentic_of_encrypt {key sender : SecretKey} {nonce : FixedBytes nonceSize}
    {body sent payload : Bytes} (hsent : encrypt body sender key.publicKey nonce = .ok sent)
    (hpayload : payload = sent ∨ payload = respelled sent sender.publicKey) :
    Authentic payload key body := by
  obtain ⟨sealed, hsealed, rfl⟩ := (encrypt_eq_ok_iff ..).mp hsent
  rw [SecretKey.shared_comm] at hsealed
  rw [respelled_eq] at hpayload
  rcases hpayload with rfl | rfl
  · exact authentic_of_parts hsealed (PublicKey.length_uncompressed _)
      (PublicKey.ofBytes?_uncompressed _)
  · have hlength := PublicKey.length_hybrid sender.publicKey
    exact authentic_of_parts hsealed hlength
      ((PublicKey.ofBytes?_eq_some_iff hlength _).mpr (.inr rfl))

/-- **What is opened was sent, or is respelled.** A payload is opened for a key as a body exactly if
someone could have sent that body to the owner of the key, with some nonce, and the payload is what was
sent, or differs from it in nothing but that the sender's key has its hybrid form. -/
theorem decrypt_eq_ok_iff_encrypt (payload : Bytes) (key : SecretKey) (body : Bytes) :
    decrypt payload key = .ok body ↔
      ∃ (sender : SecretKey) (nonce : FixedBytes nonceSize) (sent : Bytes),
        encrypt body sender key.publicKey nonce = .ok sent ∧
          (payload = sent ∨ payload = respelled sent sender.publicKey) := by
  rw [decrypt_eq_ok_iff]
  constructor
  · rintro ⟨hlength, sender, common, sealed, hsender, hcommon, hsealed, hfront⟩
    -- every public key is that of someone who could have sent the payload
    obtain ⟨a, rfl⟩ := SecretKey.publicKey_bijective.2 sender
    have hnonce : (payload.take 12).length = 12 := List.length_take_of_le (by omega)
    have hshared : a.shared key.publicKey = sha256 common.compressed := by
      rw [SecretKey.shared_comm, SecretKey.shared_eq hcommon]
    refine ⟨a, ⟨payload.take 12, hnonce⟩, _, (encrypt_eq_ok_iff ..).mpr ⟨sealed, ?_, rfl⟩, ?_⟩
    · rw [hshared]
      exact hsealed
    · have hparts : payload = payload.take 12 ++ sealed ++ payload.drop (payload.length - 65) := by
        rw [← hfront, List.take_append_drop]
      have hsuffix : (payload.drop (payload.length - 65)).length = 65 := by
        rw [List.length_drop]
        omega
      rw [respelled_eq]
      rcases (PublicKey.ofBytes?_eq_some_iff hsuffix _).mp hsender with h | h
      · rw [h] at hparts
        exact .inl hparts
      · rw [h] at hparts
        exact .inr hparts
  · rintro ⟨a, nonce, sent, hsent, hpayload⟩
    exact authentic_of_encrypt hsent hpayload

/-- Respelling changes nothing in front of the sender's key. -/
theorem take_respelled (sent : Bytes) (sender : PublicKey) :
    (respelled sent sender).take ((respelled sent sender).length - 65) =
      sent.take (sent.length - 65) :=
  take_front _ sender.length_hybrid

/-- A respelled payload ends with the hybrid form. -/
theorem drop_respelled (sent : Bytes) (sender : PublicKey) :
    (respelled sent sender).drop ((respelled sent sender).length - 65) = sender.hybrid :=
  drop_front _ sender.length_hybrid

/-- A payload that is sent ends with the uncompressed form. -/
theorem drop_of_encrypt {body : Bytes} {sender : SecretKey} {recipient : PublicKey}
    {nonce : FixedBytes nonceSize} {sent : Bytes}
    (h : encrypt body sender recipient nonce = .ok sent) :
    sent.drop (sent.length - 65) = sender.publicKey.uncompressed := by
  obtain ⟨sealed, -, rfl⟩ := (encrypt_eq_ok_iff ..).mp h
  exact drop_frame nonce sealed sender.publicKey

/-- So nobody sends a respelled payload. -/
theorem encrypt_ne_respelled (body : Bytes) (a : SecretKey) (recipient : PublicKey)
    (nonce : FixedBytes nonceSize) (sent : Bytes) (sender : PublicKey) :
    encrypt body a recipient nonce ≠ .ok (respelled sent sender) := by
  intro h
  have hsuffix := drop_of_encrypt h
  rw [drop_respelled] at hsuffix
  exact PublicKey.hybrid_ne_uncompressed sender a.publicKey hsuffix

/-- **Every payload has a second form.** What was sent and the respelled payload are both opened, agree up
to the sender's key, and are read as from one sender. But the respelled one does not end with the
uncompressed form of any key, and nobody sends it. -/
theorem respelled_of_encrypt {body : Bytes} {sender key : SecretKey} {nonce : FixedBytes nonceSize}
    {sent payload : Bytes} (hsent : encrypt body sender key.publicKey nonce = .ok sent)
    (hpayload : payload = respelled sent sender.publicKey) :
    (decrypt sent key = .ok body ∧ decrypt payload key = .ok body) ∧
      payload.take (payload.length - 65) = sent.take (sent.length - 65) ∧
      (PublicKey.ofBytes? (sent.drop (sent.length - 65)) = some sender.publicKey ∧
        PublicKey.ofBytes? (payload.drop (payload.length - 65)) = some sender.publicKey) ∧
      (∀ p : PublicKey, payload.drop (payload.length - 65) ≠ p.uncompressed) ∧
      ∀ body' sender' nonce', encrypt body' sender' key.publicKey nonce' ≠ .ok payload := by
  subst hpayload
  refine ⟨⟨?_, ?_⟩, take_respelled .., ⟨?_, ?_⟩, ?_, ?_⟩
  · exact (decrypt_eq_ok_iff body).mpr (authentic_of_encrypt hsent (.inl rfl))
  · exact (decrypt_eq_ok_iff body).mpr (authentic_of_encrypt hsent (.inr rfl))
  · rw [drop_of_encrypt hsent, PublicKey.ofBytes?_uncompressed]
  · rw [drop_respelled]
    exact (PublicKey.ofBytes?_eq_some_iff (PublicKey.length_hybrid _) _).mpr (.inr rfl)
  · intro p
    rw [drop_respelled]
    exact PublicKey.hybrid_ne_uncompressed _ p
  · intro body' sender' nonce'
    exact encrypt_ne_respelled body' sender' key.publicKey nonce' sent sender.publicKey

/-- A payload for the key five from the key that is made of 32 bytes `0x22`, and its second form. -/
theorem respelled_opened_five :
    ∃ sent payload : Bytes,
      encrypt [0x68, 0x79, 0x62, 0x72, 0x69, 0x64]
        ⟨0x2222222222222222222222222222222222222222222222222222222222222222, by decide⟩
        (SecretKey.publicKey ⟨5, by decide⟩) ⟨List.replicate 12 0, rfl⟩ = .ok sent ∧
      (decrypt sent ⟨5, by decide⟩ = .ok [0x68, 0x79, 0x62, 0x72, 0x69, 0x64] ∧
        decrypt payload ⟨5, by decide⟩ = .ok [0x68, 0x79, 0x62, 0x72, 0x69, 0x64]) ∧
      payload.take (payload.length - 65) = sent.take (sent.length - 65) ∧
      PublicKey.ofBytes? (payload.drop (payload.length - 65)) =
        PublicKey.ofBytes? (sent.drop (sent.length - 65)) ∧
      (∀ p : PublicKey, payload.drop (payload.length - 65) ≠ p.uncompressed) ∧
      ∀ body sender nonce,
        encrypt body sender (SecretKey.publicKey ⟨5, by decide⟩) nonce ≠ .ok payload := by
  have hlength : ([0x68, 0x79, 0x62, 0x72, 0x69, 0x64] : Bytes).length ≤ Gcm.maxBody := by decide
  obtain ⟨sealed, hsealed⟩ := Gcm.exists_seal? hlength
    (SecretKey.shared ⟨0x2222222222222222222222222222222222222222222222222222222222222222, by decide⟩
      (SecretKey.publicKey ⟨5, by decide⟩)) (List.replicate 12 0)
  have hsent := (encrypt_eq_ok_iff _ _ _ ⟨List.replicate 12 0, rfl⟩ _).mpr ⟨sealed, hsealed, rfl⟩
  obtain ⟨hopened, hfront, ⟨hsender, hsender'⟩, hsuffix, hnobody⟩ := respelled_of_encrypt hsent rfl
  exact ⟨_, _, hsent, hopened, hfront, hsender'.trans hsender.symm, hsuffix, hnobody⟩

end Envelope

end SeedWallet
