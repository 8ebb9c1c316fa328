import SeedWallet.Proofs.ImportedKeys
import SeedWallet.Proofs.Mnemonics

/-!
# What the rejection of a secret tells

A phrase or the text of a key that is rejected may be a secret with a slip in it. The failure tells little
of it: of a phrase how many words it has and the place of the first one that is not in the list, of the
text of a key whether it holds a number that is no key.

- `Mnemonic.ofWords_eq_error_iff`: the fault of words, out of their count and that place.
- `Wallet.ofPhrase_eq_invalidMnemonic_iff`: the phrases that are rejected, and the failure.
- `PrivateKeyText.decode_eq_notSecret_iff`: the texts that hold a number that is no key.
- `Wallet.rejected_secrets_indistinguishable`: secrets that are rejected for the same reason.
-/

namespace SeedWallet

/-! ## Phrases -/

namespace WordList

theorem index?_eq_none_iff (w : String) : index? w = none ↔ w ∉ english :=
  List.idxOf?_eq_none_iff

end WordList

namespace Mnemonic

/-- The place of the first word that is not in the list. -/
def firstForeign? (ws : List String) : Option Nat :=
  ws.findIdx? (· ∉ WordList.english)

/-- The fault of words that spell nothing, out of how many they are and the place of the first one that
is not in the list. -/
def faultOf (count : Nat) (foreign : Option Nat) : Fault :=
  if count ∈ [12, 15, 18, 21, 24] then
    match foreign with
    | some i => .unknownWord i
    | none => .checksum
  else .wordCount count

/-- If words cannot be looked up, the first one that is not in the list is to blame. -/
theorem fault_of_lookUp {position : Nat} {ws : List String} {fault : Fault}
    (h : lookUp position ws = .error fault) :
    ∃ i, firstForeign? ws = some i ∧ fault = .unknownWord (position + i) := by
  induction ws generalizing position with
  | nil => cases h
  | cons w ws ih =>
    rw [lookUp] at h
    rw [firstForeign?, List.findIdx?_cons]
    split at h
    · rename_i i hi
      obtain ⟨hlt, rfl⟩ := (WordList.index?_eq_some_iff w i).mp hi
      cases hrest : lookUp (position + 1) ws with
      | error fault' =>
        rw [hrest] at h
        cases h
        obtain ⟨j, hj, rfl⟩ := ih hrest
        rw [if_neg (by simpa using WordList.word_mem_english hlt), ← firstForeign?, hj]
        exact ⟨j + 1, rfl, by rw [Nat.add_right_comm, Nat.add_assoc]⟩
      | ok is =>
        rw [hrest] at h
        cases h
    · rename_i hnone
      cases h
      rw [if_pos (by simpa using (WordList.index?_eq_none_iff w).mp hnone)]
      exact ⟨0, rfl, rfl⟩

/-- Words that are looked up are all in the list. -/
theorem firstForeign?_of_lookUp {position : Nat} {ws : List String} {is : List Nat}
    (h : lookUp position ws = .ok is) : firstForeign? ws = none := by
  obtain ⟨hlts, rfl⟩ := (lookUp_eq_ok_iff position ws is).mp h
  rw [firstForeign?, List.findIdx?_eq_none_iff]
  refine List.forall_mem_map.mpr fun i hi => ?_
  simpa using WordList.word_mem_english (hlts i hi)

/-- The digits of the entropy fill as many bytes as some mnemonic has. -/
theorem length_entropy_mem {ws : List String} {is : List Nat} (hcount : ws.length ∈ [12, 15, 18, 21, 24])
    (h : lookUp 0 ws = .ok is) :
    (Bytes.ofBits ((is.flatMap (Bits.ofNat 11)).take (32 * (ws.length / 3)))).length ∈
      [16, 20, 24, 28, 32] := by
  obtain ⟨-, hws⟩ := (lookUp_eq_ok_iff 0 ws is).mp h
  have hlen : ws.length = is.length := by rw [hws, List.length_map]
  rw [hlen] at hcount ⊢
  rw [Bytes.length_ofBits, List.length_take, List.length_flatMap]
  simp only [Bits.length_ofNat, List.map_const', List.sum_replicate, smul_eq_mul]
  simp only [List.mem_cons, List.not_mem_nil, or_false] at hcount ⊢
  omega

/-- The fault of words is told by their count and the place of the first one that is not in the list. -/
theorem fault_of_ofWords {ws : List String} {fault : Fault} (h : ofWords ws = .error fault) :
    fault = faultOf ws.length (firstForeign? ws) := by
  rw [ofWords] at h
  split at h
  · rename_i hcount
    cases hlook : lookUp 0 ws with
    | error fault' =>
      rw [hlook] at h
      cases h
      obtain ⟨i, hforeign, rfl⟩ := fault_of_lookUp hlook
      rw [hforeign, faultOf, if_pos hcount, Nat.zero_add]
    | ok is =>
      rw [hlook] at h
      change (if _ then _ else _) = _ at h
      split at h
      · -- entropy that carries its checksum is of a supported size
        rw [ofEntropy, dif_pos (length_entropy_mem hcount hlook)] at h
        cases h
      · cases h
        rw [firstForeign?_of_lookUp hlook, faultOf, if_pos hcount]
  · rename_i hcount
    cases h
    unfold faultOf
    rw [if_neg hcount]

/-- Words are rejected exactly if they are those of no mnemonic. -/
theorem ofWords_eq_error_iff (ws : List String) (fault : Fault) :
    ofWords ws = .error fault ↔
      (¬∃ m : Mnemonic, ws = m.words) ∧ fault = faultOf ws.length (firstForeign? ws) := by
  simp only [← ofWords_eq_ok_iff]
  constructor
  · intro h
    refine ⟨?_, fault_of_ofWords h⟩
    rw [h]
    rintro ⟨m, hm⟩
    cases hm
  · rintro ⟨hnone, rfl⟩
    cases h : ofWords ws with
    | error fault => rw [← fault_of_ofWords h]
    | ok m => exact absurd ⟨m, h⟩ hnone

end Mnemonic

namespace Wallet

/-- The master key of a seed fails for another reason, if it does. -/
theorem master_ne_invalidMnemonic (seed : Bytes) (network : Network) (reason : String) :
    ExtendedKey.master seed network ≠ .error (.invalidMnemonic reason) := by
  intro h
  rw [ExtendedKey.master, ExtendedKey.ofHalves] at h
  split at h <;> cases h

/-- **A phrase is rejected exactly if its words are those of no mnemonic.** The profile has no part in it,
and the failure is told by the count of the words and the place of the first one that is not in the list.
-/
theorem ofPhrase_eq_invalidMnemonic_iff (phrase : String) (profile : Profile) (reason : String) :
    ofPhrase phrase profile = .error (.invalidMnemonic reason) ↔
      (¬∃ m : Mnemonic, Mnemonic.wordsOf phrase = m.words) ∧
        reason = (Mnemonic.faultOf (Mnemonic.wordsOf phrase).length
          (Mnemonic.firstForeign? (Mnemonic.wordsOf phrase))).message := by
  rw [ofPhrase, seedOfPhrase, Mnemonic.parse]
  cases h : Mnemonic.ofWords (Mnemonic.wordsOf phrase) with
  | error fault =>
    obtain ⟨hnone, rfl⟩ := (Mnemonic.ofWords_eq_error_iff _ _).mp h
    simp only [Result.error_bind, Mnemonic.Fault.toError, Except.error.injEq,
      WalletError.invalidMnemonic.injEq]
    exact ⟨fun hreason => ⟨hnone, hreason.symm⟩, fun hreason => hreason.2.symm⟩
  | ok m =>
    have hwords := (Mnemonic.ofWords_eq_ok_iff _ m).mp h
    rw [Result.ok_bind, Result.bind_eq_error_iff]
    constructor
    · rintro (hmaster | ⟨master, -, hreturn⟩)
      · exact absurd hmaster (master_ne_invalidMnemonic _ _ _)
      · cases hreturn
    · rintro ⟨hnone, -⟩
      exact absurd ⟨m, hwords⟩ hnone

end Wallet

/-! ## Texts of a key -/

/-- Bytes are those of no key if their number is zero or not below the group order. -/
theorem SecretKey.ofBytes?_eq_none_iff (bs : Bytes) :
    ofBytes? bs = none ↔ Bytes.toNat bs = 0 ∨ curveOrder ≤ Bytes.toNat bs := by
  rw [ofBytes?]
  split
  · rename_i hlt
    rw [ofScalar?, dite_eq_right_iff]
    simp [Fin.ext_iff, hlt]
  · rename_i hlt
    simp [not_lt.mp hlt]

namespace PrivateKeyText

/-- The text is well formed, but in place of the key stands a number that is none. -/
def HoldsNoKey (text : String) : Prop :=
  ∃ version ∈ versions, ∃ body, (body.length = 32 ∨ body.length = 33) ∧
    text = Base58Check.encode (version :: body) ∧
    (Bytes.toNat (body.take 32) = 0 ∨ curveOrder ≤ Bytes.toNat (body.take 32))

theorem decode_of_holdsNoKey {text : String} (h : HoldsNoKey text) : decode text = .error notSecret := by
  obtain ⟨version, hversion, body, hlength, rfl, hnumber⟩ := h
  have hpayload : Base58Check.decode (Base58Check.encode (version :: body)) =
      .ok (version :: body) := (Base58Check.decode_eq_ok_iff _ _).mpr rfl
  rw [decode, hpayload]
  simp only [hversion, (SecretKey.ofBytes?_eq_none_iff _).mpr hnumber, not_true_eq_false, if_false]
  rw [if_neg (by omega)]

/-- There are two failures, and the text tells which one it is. -/
theorem error_of_decode {text : String} {e : WalletError} (h : decode text = .error e) :
    (HoldsNoKey text ∧ e = notSecret) ∨ (¬HoldsNoKey text ∧ e = notBase58) := by
  by_cases hnumber : HoldsNoKey text
  · rw [decode_of_holdsNoKey hnumber] at h
    cases h
    exact .inl ⟨hnumber, rfl⟩
  · refine .inr ⟨hnumber, ?_⟩
    unfold decode at h
    split at h
    · cases h
      rfl
    · cases h
      rfl
    · rename_i version rest hpayload
      split at h
      · cases h
        rfl
      · rename_i hlength
        split at h
        · cases h
          rfl
        · rename_i hversion
          split at h
          · cases h
          · rename_i hnone
            refine absurd ⟨version, not_not.mp hversion, rest, by omega, ?_, ?_⟩ hnumber
            · exact (Base58Check.decode_eq_ok_iff _ _).mp hpayload
            · exact (SecretKey.ofBytes?_eq_none_iff _).mp hnone

/-- A text is well formed and holds no key exactly if its failure says so. -/
theorem decode_eq_notSecret_iff (text : String) :
    decode text = .error notSecret ↔ HoldsNoKey text := by
  refine ⟨fun h => ?_, decode_of_holdsNoKey⟩
  rcases error_of_decode h with ⟨hnumber, -⟩ | ⟨-, hsame⟩
  · exact hnumber
  · exact absurd hsame (by decide)

end PrivateKeyText

namespace Wallet

/-- The text is rejected with that failure, under a given profile or the one that stands in for it. -/
def RejectsKey (text : String) (e : WalletError) : Prop :=
  importKey text = .error e ∨ ∃ profile, importKeyWith text profile = .error e

/-- Only what the text says of the key counts. -/
theorem rejectsKey_iff (text : String) (e : WalletError) :
    RejectsKey text e ↔ PrivateKeyText.decode text = .error e := by
  have hwith (profile) : importKeyWith text profile = .error e ↔
      PrivateKeyText.decode text = .error e := by
    rw [importKeyWith, ImportedKey.ofText_eq]
    cases PrivateKeyText.decode text <;> simp [Except.map]
  constructor
  · rintro (h | ⟨profile, h⟩)
    · exact (hwith .importDefault).mp h
    · exact (hwith profile).mp h
  · intro h
    exact .inl ((hwith .importDefault).mpr h)

/-- A phrase that spells no mnemonic is rejected as such. -/
theorem exists_ofPhrase_eq_invalidMnemonic (phrase : String) (profile : Profile)
    (h : (Mnemonic.parse phrase).isOk = false) :
    ∃ reason, ofPhrase phrase profile = .error (.invalidMnemonic reason) := by
  refine ⟨_, (ofPhrase_eq_invalidMnemonic_iff phrase profile _).mpr ⟨?_, rfl⟩⟩
  rintro ⟨m, hwords⟩
  rw [(Mnemonic.parse_eq_ok_iff phrase m).mpr hwords] at h
  cases h

/-- **Rejections do not tell secrets apart.** A phrase is rejected if its words are those of no mnemonic,
with a failure that is told by their count and the place of the first one that is not in the list. So
phrases that agree in these two are rejected with the same failure, whatever the words and the profiles.
The failures of two texts of a key are the same unless one of them is well formed and holds a number that
is no key and the other is not so, and only then do they differ. -/
theorem rejected_secrets_indistinguishable :
    (∀ s p reason, ofPhrase s p = .error (.invalidMnemonic reason) ↔
      (¬∃ m : Mnemonic, Mnemonic.wordsOf s = m.words) ∧
        reason = (Mnemonic.faultOf (Mnemonic.wordsOf s).length
          (Mnemonic.firstForeign? (Mnemonic.wordsOf s))).message) ∧
    (∀ s t p q reason reason', ofPhrase s p = .error (.invalidMnemonic reason) →
      ofPhrase t q = .error (.invalidMnemonic reason') →
      (Mnemonic.wordsOf s).length = (Mnemonic.wordsOf t).length →
      Mnemonic.firstForeign? (Mnemonic.wordsOf s) = Mnemonic.firstForeign? (Mnemonic.wordsOf t) →
      reason = reason') ∧
    (∀ s t e e', RejectsKey s e → RejectsKey t e' →
      (e = e' ↔ (PrivateKeyText.HoldsNoKey s ↔ PrivateKeyText.HoldsNoKey t))) := by
  refine ⟨ofPhrase_eq_invalidMnemonic_iff, ?_, ?_⟩
  · intro s t p q reason reason' hs ht hcount hforeign
    obtain ⟨-, rfl⟩ := (ofPhrase_eq_invalidMnemonic_iff s p reason).mp hs
    obtain ⟨-, rfl⟩ := (ofPhrase_eq_invalidMnemonic_iff t q reason').mp ht
    rw [hcount, hforeign]
  · intro s t e e' hs ht
    rw [rejectsKey_iff] at hs ht
    have hdiffer : PrivateKeyText.notSecret ≠ PrivateKeyText.notBase58 := by decide
    rcases PrivateKeyText.error_of_decode hs with ⟨hs', rfl⟩ | ⟨hs', rfl⟩ <;>
      rcases PrivateKeyText.error_of_decode ht with ⟨ht', rfl⟩ | ⟨ht', rfl⟩ <;>
      simp [hs', ht', hdiffer, hdiffer.symm]

/-- A wrong checksum is reported alike for other words and another profile; a text of zeros in place of a
key is told from an empty one. -/
theorem rejected_secrets_indistinguishable_able :
    (∃ reason,
      ofPhrase (" ".intercalate (List.replicate 12 "abandon")) .importDefault =
        .error (.invalidMnemonic reason) ∧
      ofPhrase (" ".intercalate (List.replicate 12 "able")) ⟨.legacy, 1, 0, .testnet⟩ =
        .error (.invalidMnemonic reason)) ∧
    ∃ e e', RejectsKey "" e ∧
      RejectsKey "5HpHagT65TZzG1PH3CSu63k8DbpvD8s5ip4nEB3kEsreAbuatmU" e' ∧ e ≠ e' := by
  constructor
  · obtain ⟨reason, hs⟩ := exists_ofPhrase_eq_invalidMnemonic
      (" ".intercalate (List.replicate 12 "abandon")) .importDefault (by decide +kernel)
    obtain ⟨reason', ht⟩ := exists_ofPhrase_eq_invalidMnemonic
      (" ".intercalate (List.replicate 12 "able")) ⟨.legacy, 1, 0, .testnet⟩ (by decide +kernel)
    have hsame := rejected_secrets_indistinguishable.2.1 _ _ _ _ reason reason' hs ht (by decide +kernel)
      (by decide +kernel)
    exact ⟨reason, hs, hsame ▸ ht⟩
  · have hempty : PrivateKeyText.decode "" = .error PrivateKeyText.notBase58 := rfl
    have hzeros : PrivateKeyText.HoldsNoKey "5HpHagT65TZzG1PH3CSu63k8DbpvD8s5ip4nEB3kEsreAbuatmU" :=
      ⟨0x80, by decide, List.replicate 32 0, .inl rfl, by decide +kernel, .inl (by decide)⟩
    have hrejected := (rejectsKey_iff _ _).mpr ((PrivateKeyText.decode_eq_notSecret_iff _).mpr hzeros)
    have hrejected' := (rejectsKey_iff _ _).mpr hempty
    refine ⟨_, _, hrejected', hrejected, fun hsame => ?_⟩
    -- if the failures were the same, the empty text would hold zeros too
    have hnumber :=
      ((rejected_secrets_indistinguishable.2.2 _ _ _ _ hrejected' hrejected).mp hsame).mpr hzeros
    have hsecret := hempty.symm.trans ((PrivateKeyText.decode_eq_notSecret_iff _).mpr hnumber)
    exact absurd (Except.error.inj hsecret) (by decide)

end Wallet

end SeedWallet
