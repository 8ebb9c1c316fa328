import SeedWallet.Proofs.ProfileSwaps
import SeedWallet.Proofs.WrittenAddresses

/-!
# Candidates of imported keys

An imported key has three addresses, which are written for its two public key hashes and a network. So
nothing of the profile but its network shows in them, nothing of the text but the key, and each of them
is the address that a wallet has for the key under a profile of the purpose.

- `PrivateKeyText.decode_eq_ok_iff`: the texts of a secret key.
- `ImportedKey.ofKey`, `ImportedKey.ofText_eq`: an imported key, put together from its hashes.
- `ImportedKey.candidates_of_decode`: what the candidates stand for.
- `ImportedKey.candidate_of_record`: they are the addresses that wallets derive.
-/

namespace SeedWallet

/-! ## Texts of a secret key -/

/-- Of 32 bytes only those of a key are read as it. -/
theorem SecretKey.ofBytes?_eq_some_iff {bs : Bytes} (h : bs.length = 32) (k : SecretKey) :
    ofBytes? bs = some k ↔ bs = k.bytes := by
  constructor
  · intro hread
    rw [ofBytes?] at hread
    split at hread
    · rw [ofScalar?] at hread
      split at hread
      · cases hread
        rw [bytes, ← h, Bytes.ofNat_toNat]
      · cases hread
    · cases hread
  · rintro rfl
    exact ofBytes?_bytes k

namespace PrivateKeyText

/-- How many bytes follow those of the key. -/
def markerSize (key : PrivateKeyText) : Nat :=
  if key.compressed then 1 else 0

/-- What is between version and checksum: the key, and any byte more if it is meant compressed. -/
def IsBody (key : PrivateKeyText) (body : Bytes) : Prop :=
  ∃ marker, marker.length = key.markerSize ∧ body = key.secret.bytes ++ marker

/-- Such a body has one byte more than the key exactly if the key is meant compressed. -/
theorem length_of_isBody {key : PrivateKeyText} {body : Bytes} (h : key.IsBody body) :
    body.length = 32 + key.markerSize := by
  obtain ⟨marker, hmarker, rfl⟩ := h
  rw [List.length_append, SecretKey.length_bytes, hmarker]

theorem decode_encode_of_isBody {key : PrivateKeyText} {body : Bytes} (h : key.IsBody body)
    {version : UInt8} (hversion : version ∈ versions) :
    decode (Base58Check.encode (version :: body)) = .ok key := by
  have hlength := length_of_isBody h
  obtain ⟨marker, -, rfl⟩ := h
  have hpayload : Base58Check.decode (Base58Check.encode (version :: (key.secret.bytes ++ marker))) =
      .ok (version :: (key.secret.bytes ++ marker)) := (Base58Check.decode_eq_ok_iff _ _).mpr rfl
  have htake : (key.secret.bytes ++ marker).take 32 = key.secret.bytes :=
    List.take_left' key.secret.length_bytes
  obtain ⟨secret, compressed⟩ := key
  rw [decode, hpayload]
  cases compressed with
  | false =>
    have h32 : (secret.bytes ++ marker).length = 32 := hlength
    simp [h32, hversion, htake]
  | true =>
    have h33 : (secret.bytes ++ marker).length = 33 := hlength
    simp [h33, hversion, htake]

/-- The texts of a key are those of its bodies with a known version in front. -/
theorem decode_eq_ok_iff (text : String) (key : PrivateKeyText) :
    decode text = .ok key ↔ ∃ version ∈ versions, ∃ body, key.IsBody body ∧
      text = Base58Check.encode (version :: body) := by
  constructor
  · intro h
    unfold decode at h
    split at h
    · cases h
    · cases h
    · rename_i version rest hpayload
      split at h
      · cases h
      · rename_i hlength
        split at h
        · cases h
        · rename_i hversion
          split at h
          · rename_i secret hsecret
            cases h
            -- the key is in front, and what follows it tells the form that is meant
            have htake : rest.take 32 = secret.bytes :=
              (SecretKey.ofBytes?_eq_some_iff (by rw [List.length_take]; omega) secret).mp hsecret
            refine ⟨version, not_not.mp hversion, rest, ⟨rest.drop 32, ?_, ?_⟩,
              (Base58Check.decode_eq_ok_iff _ _).mp hpayload⟩
            · rw [List.length_drop, markerSize]
              by_cases h33 : rest.length = 33
              · simp [h33]
              · simp only [h33, decide_false, Bool.false_eq_true, if_false]
                omega
            · rw [← htake, List.take_append_drop]
          · cases h
  · rintro ⟨version, hversion, body, hbody, rfl⟩
    exact decode_encode_of_isBody hbody hversion

end PrivateKeyText

/-! ## Candidates -/

namespace ImportedKey

open Address (written)

/-- The key of a text with its candidates on a network. -/
def ofKey (text : String) (network : Network) (key : PrivateKeyText) : ImportedKey where
  secret := key.secret
  encoded := text
  legacy := written .legacy network (hash160 key.publicKeyBytes)
  nested := written .nestedSegwit network (hash160 key.secret.publicKey.compressed)
  native := written .nativeSegwit network (hash160 key.secret.publicKey.compressed)
  selected := none

/-- Every text of a key can be imported, and of the profile only the network shows. -/
theorem ofText_eq (text : String) (profile : Profile) :
    ofText text profile = (PrivateKeyText.decode text).map (ofKey text profile.network) := by
  rw [ofText]
  cases PrivateKeyText.decode text with
  | error e => rfl
  | ok key =>
    simp only [Result.ok_bind, Address.build_eq]
    rfl

theorem ofText_of_decode {text : String} {key : PrivateKeyText}
    (h : PrivateKeyText.decode text = .ok key) (profile : Profile) :
    ofText text profile = .ok (ofKey text profile.network key) := by
  rw [ofText_eq, h]
  rfl

/-- Any candidate can be chosen first. -/
theorem select_of_mem {k : ImportedKey} {address : String} (hfresh : k.selected = none)
    (h : address ∈ k.candidates) :
    k.select address = .ok { k with selected := some address } := by
  rw [select, hfresh, if_neg (by simp), if_neg (not_not_intro h)]

/-- The place of a purpose's address among the candidates. -/
def place : Purpose → Nat
  | .legacy => 0
  | .nestedSegwit => 1
  | .nativeSegwit => 2

/-- A compressed key has the same hash for all three candidates. -/
theorem getElem?_candidates_ofKey (text : String) (network : Network) (secret : SecretKey)
    (purpose : Purpose) :
    (ofKey text network ⟨secret, true⟩).candidates[place purpose]? =
      some (written purpose network (hash160 secret.publicKey.compressed)) := by
  cases purpose <;> rfl

/-- **Imported candidates are three views of one key on one network.** Every text that holds a secret
key is imported under every profile, with an address of a key, one of a script and one of a witness
program for the profile's network. The program is the hash of the compressed public key, the script hash
that of the program's script, and the legacy address has the hash of the public key in the form that is
meant. Profiles of the same network have the same candidates, and the text of the other network that
holds the same has them too. -/
theorem candidates_of_decode {text : String} {key : PrivateKeyText}
    (h : PrivateKeyText.decode text = .ok key) (profile : Profile) :
    ∃ k, ofText text profile = .ok k ∧
      (Address.classify k.legacy = .ok .keyHash ∧
        Address.classify k.nested = .ok .scriptHash ∧
        Address.classify k.native = .ok .witnessKeyHash) ∧
      (∃ program legacyHash : KeyHash,
        Address.decodeSegwit k.native = .ok ⟨profile.network.hrp, 0, program.val⟩ ∧
        Address.decodeBase58 k.nested =
          .ok (profile.network.scriptVersion, hash160 (0x00 :: 0x14 :: program.val)) ∧
        Address.decodeBase58 k.legacy = .ok (profile.network.keyVersion, legacyHash) ∧
        program = hash160 key.secret.publicKey.compressed ∧
        (key.compressed = true → legacyHash = program) ∧
        (key.compressed = false → legacyHash = hash160 key.secret.publicKey.uncompressed)) ∧
      (∀ other : Profile, other.network = profile.network →
        ∃ k', ofText text other = .ok k' ∧ k'.candidates = k.candidates) ∧
      (∃ version ∈ PrivateKeyText.versions, ∃ body,
        text = Base58Check.encode (version :: body) ∧
        ∀ version' ∈ PrivateKeyText.versions, ∃ k',
          ofText (Base58Check.encode (version' :: body)) profile = .ok k' ∧
            k'.candidates = k.candidates) := by
  refine ⟨_, ofText_of_decode h profile, ⟨Address.classify_written_legacy _ _,
    Address.classify_written_nestedSegwit _ _, Address.classify_written_nativeSegwit _ _⟩,
    ⟨_, _, Address.decodeSegwit_written_nativeSegwit _ _,
      Address.decodeBase58_written_nestedSegwit _ _, Address.decodeBase58_written_legacy _ _, rfl,
      ?_, ?_⟩, ?_, ?_⟩
  · intro hcompressed
    rw [PrivateKeyText.publicKeyBytes, if_pos hcompressed]
  · intro hcompressed
    rw [PrivateKeyText.publicKeyBytes, if_neg (by simp [hcompressed])]
  · intro other hnetwork
    refine ⟨_, ofText_of_decode h other, ?_⟩
    rw [hnetwork]
  · obtain ⟨version, hversion, body, hbody, htext⟩ := (PrivateKeyText.decode_eq_ok_iff text key).mp h
    refine ⟨version, hversion, body, htext, fun version' hversion' => ?_⟩
    have hdecode := PrivateKeyText.decode_encode_of_isBody hbody hversion'
    exact ⟨_, ofText_of_decode hdecode profile, rfl⟩

/-- A text of the main network that means the uncompressed public key, imported for the test network. -/
theorem candidates_of_decode_uncompressed :
    PrivateKeyText.decode "5HpHagT65TZzG1PH3CSu63k8DbpvD8s5ip4nEB3kEsreAnchuDf" =
        .ok ⟨⟨1, by decide⟩, false⟩ ∧
      ∃ k program, ofText "5HpHagT65TZzG1PH3CSu63k8DbpvD8s5ip4nEB3kEsreAnchuDf"
          ⟨.legacy, 0, 0, .testnet⟩ = .ok k ∧
        Address.decodeSegwit k.native = .ok ⟨"tb", 0, program⟩ ∧
        Address.decodeBase58 k.nested = .ok (0xc4, hash160 (0x00 :: 0x14 :: program)) ∧
        Address.decodeBase58 k.legacy =
          .ok (0x6f, hash160 (SecretKey.publicKey ⟨1, by decide⟩).uncompressed) := by
  have htext : "5HpHagT65TZzG1PH3CSu63k8DbpvD8s5ip4nEB3kEsreAnchuDf" =
      Base58Check.encode (0x80 :: SecretKey.bytes ⟨1, by decide⟩) := by decide +kernel
  have hdecode := (PrivateKeyText.decode_eq_ok_iff _ ⟨⟨1, by decide⟩, false⟩).mpr
    ⟨0x80, by decide, _, ⟨[], rfl, by rw [List.append_nil]⟩, htext⟩
  obtain ⟨k, hk, -, ⟨program, legacyHash, hnative, hnested, hlegacy, -, -, hhash⟩, -⟩ :=
    candidates_of_decode hdecode ⟨.legacy, 0, 0, .testnet⟩
  rw [hhash rfl] at hlegacy
  exact ⟨hdecode, k, program.val, hk, hnative, hnested, hlegacy⟩

/-! ## The addresses of wallets -/

/-- **Wallets and imported keys agree on addresses.** The address of a record that a wallet derives under
a profile is a candidate of every text that holds the record's key and means it compressed: the one of
the profile's purpose, and it can be chosen. There are such texts for every key. -/
theorem candidate_of_record :
    (∀ (w : Wallet) profile chain index m, (w.install profile).addressAt chain index = .ok m →
      ∃ key, w.master.atPath m.path = .ok key ∧ m.publicKey = key.publicKey.hex ∧
        ∀ text, PrivateKeyText.decode text = .ok ⟨key.secret, true⟩ →
          ∃ k, ofText text profile = .ok k ∧
            k.candidates[place profile.purpose]? = some m.address ∧
            ∃ k', k.select m.address = .ok k' ∧ k'.selected = some m.address) ∧
    (∀ (secret : SecretKey), ∀ version ∈ PrivateKeyText.versions, ∀ marker,
      PrivateKeyText.decode (Base58Check.encode (version :: (secret.bytes ++ [marker]))) =
        .ok ⟨secret, true⟩) := by
  constructor
  · intro w profile chain index m h
    obtain ⟨key, hkey, haddress, hpath, -, hpublic⟩ :=
      (Wallet.addressAt_eq_ok_iff _ chain index m).mp h
    refine ⟨key, hpath ▸ hkey, hpublic, fun text htext => ?_⟩
    -- both ways write the hash of the compressed key for the same purpose and network
    have hplace := getElem?_candidates_ofKey text profile.network key.secret profile.purpose
    have hsame : written profile.purpose profile.network (hash160 key.secret.publicKey.compressed) =
        m.address := by
      rw [Address.build_eq] at haddress
      exact Except.ok.inj haddress
    rw [hsame] at hplace
    exact ⟨_, ofText_of_decode htext profile, hplace, _,
      select_of_mem rfl (List.mem_of_getElem? hplace), rfl⟩
  · intro secret version hversion marker
    have hbody : PrivateKeyText.IsBody ⟨secret, true⟩ (secret.bytes ++ [marker]) :=
      ⟨[marker], rfl, rfl⟩
    exact PrivateKeyText.decode_encode_of_isBody hbody hversion

end ImportedKey

end SeedWallet
