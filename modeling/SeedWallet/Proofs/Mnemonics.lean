import Mathlib.Data.List.Chain
import SeedWallet.Proofs.Alphabet
import SeedWallet.Proofs.TextWords
import SeedWallet.Wallet

/-!
# Entropy and its words

Entropy and the beginning of its hash are one list of binary digits, which words are a second way to
cut: neither way loses anything, since both widths divide its length. A text spells a mnemonic exactly
if its words are the mnemonic's, whatever stands between them.

- `Bits.flatMap_ofNat_fullGroups`, `Bits.map_toNat_fullGroups`: cutting digits into numbers and back.
- `WordList.index?_eq_some_iff`: words and places correspond.
- `Mnemonic.ofWords_eq_ok_iff`: words spell a mnemonic exactly if they are its words.
- `Mnemonic.parse_eq_ok_iff`: so do the words of a text.
- `Mnemonic.entropy_phrase_correspondence`: entropy and phrases correspond.
-/

namespace SeedWallet

/-- A changed result is that of a result. -/
theorem map_eq_ok_iff {ε α β : Type} {f : α → β} {x : Except ε α} {b : β} :
    x.map f = .ok b ↔ ∃ a, x = .ok a ∧ f a = b := by
  cases x with
  | error e => simp [Except.map]
  | ok a => simp [Except.map]

/-! ## Numbers of a fixed width -/

namespace Bits

/-- Digits are those of the numbers that they are cut into, if the width divides their count. -/
theorem flatMap_ofNat_fullGroups {w : Nat} {ds : List Bool} (h : w ∣ ds.length) :
    ((fullGroups w ds).map toNat).flatMap (ofNat w) = ds := by
  have hall : ds.length / w * w = ds.length := Nat.div_mul_cancel h
  have hgroups : (groups w (ds.length / w) ds).map (ofNat w ∘ toNat)
      = groups w (ds.length / w) ds := by
    refine (List.map_congr_left fun g hg => ?_).trans (List.map_id _)
    have hg : g.length = w := length_of_mem_groups hall.le hg
    rw [Function.comp, id]
    conv => lhs; rw [← hg]
    exact ofNat_toNat g
  rw [fullGroups, List.flatMap_def, List.map_map, hgroups, flatten_groups, hall, List.take_length]

/-- Numbers that fit into the width are cut out of their digits again. -/
theorem map_toNat_fullGroups {w : Nat} (hw : 0 < w) {ns : List Nat} (h : ∀ n ∈ ns, n < 2 ^ w) :
    (fullGroups w (ns.flatMap (ofNat w))).map toNat = ns := by
  have hcount : (ns.flatMap (ofNat w)).length / w = (ns.map (ofNat w)).length := by
    rw [List.length_flatMap]
    simp [Nat.mul_div_cancel _ hw]
  have hgroups := groups_flatten w (ns.map (ofNat w)) [] (by simp)
  rw [List.append_nil] at hgroups
  rw [fullGroups, hcount, List.flatMap_def, hgroups, List.map_map]
  refine (List.map_congr_left fun n hn => ?_).trans (List.map_id _)
  rw [Function.comp, id, toNat_ofNat, Nat.mod_eq_of_lt (h n hn)]

end Bits

/-! ## The word list -/

namespace WordList

/-- A word of small letters. -/
def isWord (cs : List Char) : Bool :=
  !cs.isEmpty && cs.all fun c => decide (97 ≤ c.toNat) && decide (c.toNat ≤ 122)

theorem letters_of_isWord {cs : List Char} (h : isWord cs = true) :
    cs ≠ [] ∧ ∀ c ∈ cs, 97 ≤ c.toNat ∧ c.toNat ≤ 122 := by
  simpa [isWord] using h

theorem ascii_of_isWord {cs : List Char} (h : isWord cs = true) : ∀ c ∈ cs, c.toNat < 0x80 := by
  intro c hc
  have := (letters_of_isWord h).2 c hc
  omega

theorem not_blank_of_isWord {cs : List Char} (h : isWord cs = true) :
    cs ≠ [] ∧ ∀ c ∈ cs, Text.isBlank c = false := by
  obtain ⟨hne, hletters⟩ := letters_of_isWord h
  refine ⟨hne, fun c hc => ?_⟩
  obtain ⟨hlo, hhi⟩ := hletters c hc
  simp only [Text.isBlank, Bool.or_eq_false_iff, Bool.and_eq_false_iff, decide_eq_false_iff_not,
    beq_eq_false_iff_ne]
  omega

theorem isWord_of_mem_english : ∀ w ∈ english, isWord w.toList = true := by
  have hall : (english.map String.toList).all isWord = true := by
    apply toList_of_spelled (P := fun css => css.all isWord = true)
    · unfold english
      repeat' constructor
    · decide +kernel
  rw [List.all_map] at hall
  exact List.all_eq_true.mp hall

set_option maxRecDepth 20000 in
/-- The words are in alphabetical order. -/
theorem sorted_english : (english.map String.toList).IsChain (· < ·) := by
  apply toList_of_spelled (P := fun css => css.IsChain (· < ·))
  · unfold english
    repeat' constructor
  · decide +kernel

/-- So no word is in the list twice. -/
theorem nodup_english : english.Nodup := by
  have hsorted : (english.map String.toList).Pairwise (· < ·) :=
    List.isChain_iff_pairwise.mp sorted_english
  exact List.Nodup.of_map String.toList (hsorted.imp fun h => ne_of_lt h)

theorem length_english : english.length = 2 ^ 11 := by
  decide +kernel

/-- A word has a place exactly if it is the word at that place. -/
theorem index?_eq_some_iff (w : String) (i : Nat) : index? w = some i ↔ i < 2 ^ 11 ∧ w = word i := by
  rw [← length_english]
  constructor
  · intro h
    obtain ⟨hi, hget⟩ := getElem_of_idxOf? h
    exact ⟨hi, by rw [word, List.getD_eq_getElem _ _ hi, hget]⟩
  · rintro ⟨hi, rfl⟩
    rw [word, List.getD_eq_getElem _ _ hi]
    refine List.idxOf?_eq_some_iff.mpr ⟨hi, rfl, fun j hj heq => ?_⟩
    exact hj.ne ((List.Nodup.getElem_inj_iff nodup_english).mp heq)

theorem word_mem_english {i : Nat} (h : i < 2 ^ 11) : word i ∈ english := by
  rw [← length_english] at h
  rw [word, List.getD_eq_getElem _ _ h]
  exact List.getElem_mem h

end WordList

/-! ## Words of a mnemonic -/

namespace Mnemonic

variable {m : Mnemonic}

theorem four_dvd (m : Mnemonic) : 4 ∣ m.entropy.length := by
  have h := m.supported
  simp only [List.mem_cons, List.not_mem_nil, or_false] at h
  omega

theorem length_digits (m : Mnemonic) : m.digits.length = 33 * (m.entropy.length / 4) := by
  have h := m.supported
  rw [digits, checksum, List.length_append, Bytes.length_bits, List.length_take, Bytes.length_bits,
    length_sha256]
  simp only [List.mem_cons, List.not_mem_nil, or_false] at h
  omega

/-- Three words for each four bytes. -/
theorem length_words (m : Mnemonic) : m.words.length = 3 * (m.entropy.length / 4) := by
  rw [words, List.length_map, indices, List.length_map, fullGroups, length_groups, length_digits]
  omega

theorem length_words_mem (m : Mnemonic) : m.words.length ∈ [12, 15, 18, 21, 24] := by
  have h := m.supported
  rw [length_words]
  simp only [List.mem_cons, List.not_mem_nil, or_false] at h ⊢
  omega

theorem lt_of_mem_indices : ∀ i ∈ m.indices, i < 2 ^ 11 := by
  intro i hi
  obtain ⟨g, hg, rfl⟩ := List.mem_map.mp hi
  have hlen := length_of_mem_groups (Nat.div_mul_le_self _ _) hg
  have hlt := Bits.toNat_lt g
  rwa [hlen] at hlt

/-- The places of the words spell the digits. -/
theorem flatMap_indices (m : Mnemonic) : m.indices.flatMap (Bits.ofNat 11) = m.digits := by
  refine Bits.flatMap_ofNat_fullGroups ?_
  rw [length_digits]
  omega

/-- The digits begin with those of the entropy. -/
theorem take_digits (m : Mnemonic) :
    m.digits.take (8 * m.entropy.length) = Bytes.bits m.entropy := by
  rw [digits, List.take_left' (Bytes.length_bits _)]

/-- Those of the checksum follow. -/
theorem drop_digits (m : Mnemonic) :
    m.digits.drop (8 * m.entropy.length) = checksum m.entropy := by
  rw [digits, List.drop_left' (Bytes.length_bits _)]

theorem ofEntropy_eq_ok_iff (entropy : Bytes) (m : Mnemonic) :
    ofEntropy entropy = .ok m ↔ m.entropy = entropy := by
  rw [ofEntropy]
  constructor
  · intro h
    split at h
    · cases h
      rfl
    · cases h
  · rintro rfl
    rw [dif_pos m.supported]

/-! ## Reading words -/

/-- Digits that fill bytes are spelled by these bytes. -/
theorem bits_ofBits_take {ds : List Bool} {n : Nat} (hdvd : 8 ∣ n) (hle : n ≤ ds.length) :
    Bytes.bits (Bytes.ofBits (ds.take n)) = ds.take n := by
  have hlen : (ds.take n).length = n := List.length_take_of_le hle
  rw [Bytes.bits_ofBits, hlen, Nat.div_mul_cancel hdvd, List.take_of_length_le hlen.le]

/-- Words are looked up exactly if they are words of places. -/
theorem lookUp_eq_ok_iff (position : Nat) (ws : List String) (is : List Nat) :
    lookUp position ws = .ok is ↔ (∀ i ∈ is, i < 2 ^ 11) ∧ ws = is.map WordList.word := by
  induction ws generalizing position is with
  | nil => cases is <;> simp [lookUp]
  | cons w ws ih =>
    rw [lookUp]
    constructor
    · intro h
      split at h
      · rename_i i hi
        obtain ⟨hlt, rfl⟩ := (WordList.index?_eq_some_iff w i).mp hi
        cases hrest : lookUp (position + 1) ws with
        | error fault =>
          rw [hrest] at h
          cases h
        | ok js =>
          rw [hrest] at h
          cases h
          obtain ⟨hlts, hws⟩ := (ih (position + 1) js).mp hrest
          exact ⟨List.forall_mem_cons.mpr ⟨hlt, hlts⟩, by rw [List.map_cons, ← hws]⟩
      · cases h
    · rintro ⟨hlts, hws⟩
      cases is with
      | nil => cases hws
      | cons i is =>
        rw [List.forall_mem_cons] at hlts
        rw [List.map_cons, List.cons.injEq] at hws
        rw [(WordList.index?_eq_some_iff w i).mpr ⟨hlts.1, hws.1⟩,
          (ih (position + 1) is).mpr ⟨hlts.2, hws.2⟩]
        rfl

/-- The words of a mnemonic spell it. -/
theorem ofWords_words (m : Mnemonic) : ofWords m.words = .ok m := by
  have hsize : 32 * (m.words.length / 3) = 8 * m.entropy.length := by
    have h := m.supported
    rw [length_words]
    simp only [List.mem_cons, List.not_mem_nil, or_false] at h
    omega
  have hlook : lookUp 0 m.words = .ok m.indices :=
    (lookUp_eq_ok_iff 0 _ _).mpr ⟨lt_of_mem_indices, rfl⟩
  -- the places spell the digits, which are cut where the entropy ends
  rw [ofWords, if_pos m.length_words_mem, hlook, hsize]
  show (if (m.indices.flatMap (Bits.ofNat 11)).drop (8 * m.entropy.length) = _ then _ else _) = _
  rw [flatMap_indices, take_digits, drop_digits, Bytes.ofBits_bits, if_pos rfl]
  exact (ofEntropy_eq_ok_iff _ _).mpr rfl

/-- Words that spell a mnemonic are its words. -/
theorem eq_words_of_ofWords {ws : List String} (h : ofWords ws = .ok m) : ws = m.words := by
  rw [ofWords] at h
  split at h
  · rename_i hcount
    cases hlook : lookUp 0 ws with
    | error fault =>
      rw [hlook] at h
      cases h
    | ok is =>
      obtain ⟨hlts, hws⟩ := (lookUp_eq_ok_iff 0 ws is).mp hlook
      rw [hlook] at h
      change (if _ then _ else _) = _ at h
      split at h
      · rename_i hcheck
        have hentropy := (ofEntropy_eq_ok_iff _ _).mp h
        -- the digits of the words are those of the entropy and its checksum
        have hdigits : m.digits = is.flatMap (Bits.ofNat 11) := by
          have hdvd : 8 ∣ 32 * (ws.length / 3) := by omega
          have hle : 32 * (ws.length / 3) ≤ (is.flatMap (Bits.ofNat 11)).length := by
            have hlen : ws.length = is.length := by rw [hws, List.length_map]
            rw [List.length_flatMap]
            simp only [Bits.length_ofNat, List.map_const', List.sum_replicate, smul_eq_mul, hlen]
            omega
          rw [digits, hentropy, ← hcheck, bits_ofBits_take hdvd hle, List.take_append_drop]
        rw [hws, words, indices, hdigits, Bits.map_toNat_fullGroups (by decide) hlts]
      · cases h
  · cases h

/-- Words spell a mnemonic exactly if they are its words. -/
theorem ofWords_eq_ok_iff (ws : List String) (m : Mnemonic) : ofWords ws = .ok m ↔ ws = m.words :=
  ⟨eq_words_of_ofWords, fun h => h ▸ ofWords_words m⟩

/-! ## Phrases -/

/-- What holds of the separator and of the parts holds of the whole. -/
theorem forall_mem_intercalate {α : Type} {p : α → Prop} {sep : List α} {parts : List (List α)}
    (hsep : ∀ x ∈ sep, p x) (h : ∀ part ∈ parts, ∀ x ∈ part, p x) :
    ∀ x ∈ sep.intercalate parts, p x := by
  induction parts with
  | nil => simp
  | cons part parts ih =>
    rw [List.forall_mem_cons] at h
    cases parts with
    | nil => simpa using h.1
    | cons next parts =>
      rw [List.intercalate_cons_cons]
      exact List.forall_mem_append.mpr ⟨List.forall_mem_append.mpr ⟨h.1, hsep⟩, ih h.2⟩

/-- Words with blanks between them are the words of the text that they make. -/
theorem words_toList_intercalate {ws : List String}
    (h : ∀ w ∈ ws, w.toList ≠ [] ∧ ∀ c ∈ w.toList, Text.isBlank c = false) :
    Text.words (" ".intercalate ws).toList = ws.map String.toList := by
  rw [String.toList_intercalate]
  exact Text.words_intercalate (List.forall_mem_map.mpr h)

theorem isWord_of_mem_words {w : String} (h : w ∈ m.words) : WordList.isWord w.toList = true := by
  obtain ⟨i, hi, rfl⟩ := List.mem_map.mp h
  exact WordList.isWord_of_mem_english _ (WordList.word_mem_english (lt_of_mem_indices i hi))

/-- The words of the phrase are the mnemonic's. -/
theorem words_toList_phrase (m : Mnemonic) :
    Text.words m.phrase.toList = m.words.map String.toList :=
  words_toList_intercalate fun _ hw => WordList.not_blank_of_isWord (isWord_of_mem_words hw)

theorem ascii_phrase (m : Mnemonic) : ∀ c ∈ m.phrase.toList, c.toNat < 0x80 := by
  have hsep : ∀ c ∈ " ".toList, c.toNat < 0x80 := by simp
  rw [phrase, String.toList_intercalate]
  refine forall_mem_intercalate hsep (List.forall_mem_map.mpr fun w hw => ?_)
  exact WordList.ascii_of_isWord (isWord_of_mem_words hw)

/-- The phrase is in the form that texts are decomposed to. -/
theorem wordsOf_phrase (m : Mnemonic) : wordsOf m.phrase = m.words := by
  rw [wordsOf, Text.decompose_of_ascii m.ascii_phrase, words_toList_phrase, List.map_map]
  exact (List.map_congr_left fun w _ => String.ofList_toList).trans (List.map_id _)

/-- A text spells a mnemonic exactly if its words are the mnemonic's. -/
theorem parse_eq_ok_iff (s : String) (m : Mnemonic) : parse s = .ok m ↔ wordsOf s = m.words :=
  ofWords_eq_ok_iff _ m

theorem parse_phrase (m : Mnemonic) : parse m.phrase = .ok m :=
  (parse_eq_ok_iff _ m).mpr (wordsOf_phrase m)

/-- The words of a text are told apart when they are joined. -/
theorem intercalate_wordsOf_eq_iff (s : String) (m : Mnemonic) :
    m.phrase = " ".intercalate (wordsOf s) ↔ wordsOf s = m.words := by
  constructor
  · intro h
    -- joined words can be told apart again, since no word has a blank
    have hwords : ∀ w ∈ wordsOf s, w.toList ≠ [] ∧ ∀ c ∈ w.toList, Text.isBlank c = false := by
      refine List.forall_mem_map.mpr fun w hw => ?_
      rw [String.toList_ofList]
      exact Text.word_of_mem_words _ w hw
    have hjoined := words_toList_intercalate hwords
    rw [← h, words_toList_phrase] at hjoined
    exact ((List.map_injective_iff.mpr fun _ _ => String.toList_inj.mp) hjoined).symm
  · intro h
    rw [h, phrase]

/-! ## Entropy and phrases -/

/-- Texts whose words decompose to the same spell the same. -/
theorem wordsOf_eq_of_alike {s t : String} (h : Text.Alike s.toList t.toList) :
    wordsOf s = wordsOf t := by
  rw [wordsOf, wordsOf, h.words_decompose_eq]

theorem parse_eq_of_alike {s t : String} (h : Text.Alike s.toList t.toList) : parse s = parse t := by
  rw [parse, parse, wordsOf_eq_of_alike h]

/-- Entropy has a phrase if it is the entropy of a mnemonic. -/
theorem map_phrase_eq_ok_iff (e : Bytes) (text : String) :
    (ofEntropy e).map phrase = .ok text ↔ ∃ m : Mnemonic, m.entropy = e ∧ m.phrase = text := by
  rw [map_eq_ok_iff]
  exact exists_congr fun m => and_congr_left' (ofEntropy_eq_ok_iff e m)

/-- A text has the entropy of the mnemonic whose words are its words. -/
theorem map_entropy_eq_ok_iff (s : String) (e : Bytes) :
    (parse s).map entropy = .ok e ↔ ∃ m : Mnemonic, wordsOf s = m.words ∧ m.entropy = e := by
  rw [map_eq_ok_iff]
  exact exists_congr fun m => and_congr_left' (parse_eq_ok_iff s m)

/-- Random bytes of the size that the number of words asks for make a mnemonic of so many words. -/
theorem exists_generate {count : Nat} (h : count ∈ [12, 15, 18, 21, 24])
    (random : (size : Nat) → FixedBytes size) :
    ∃ m, generate count random = .ok m ∧ m.words.length = count := by
  have hsize : 4 * (count / 3) ∈ [16, 20, 24, 28, 32] := by
    simp only [List.mem_cons, List.not_mem_nil, or_false] at h ⊢
    omega
  have hlen : (random (4 * (count / 3))).val.length = 4 * (count / 3) := (random _).property
  refine ⟨⟨(random (4 * (count / 3))).val, hlen.symm ▸ hsize⟩, ?_, ?_⟩
  · rw [generate, entropySize?, if_pos h]
    exact (ofEntropy_eq_ok_iff _ _).mpr rfl
  · rw [length_words, hlen]
    simp only [List.mem_cons, List.not_mem_nil, or_false] at h
    omega

/-- **Entropy and phrases correspond one to one.** Entropy has a phrase exactly if it is of one of the
five sizes; the phrase has three words for each four bytes and is read back as that entropy. A text has
some entropy exactly if its words, joined by single blanks, are the phrase of that entropy, so that no
two entropies share a phrase, what a text stands for has one proper spelling, and blanks and
compatibility forms do not show in the seed. Random bytes make as many words as were asked for. -/
theorem entropy_phrase_correspondence :
    (∀ e : Bytes, (∃ text, (ofEntropy e).map phrase = .ok text) ↔
      e.length ∈ [16, 20, 24, 28, 32]) ∧
    (∀ e text, (ofEntropy e).map phrase = .ok text →
      (Text.words text.toList).length = 3 * e.length / 4 ∧ (parse text).map entropy = .ok e) ∧
    (∀ s e, (parse s).map entropy = .ok e ↔
      (ofEntropy e).map phrase = .ok (" ".intercalate (wordsOf s))) ∧
    (∀ e e' text, (ofEntropy e).map phrase = .ok text → (ofEntropy e').map phrase = .ok text →
      e = e') ∧
    (∀ s m, parse s = .ok m → m.phrase = " ".intercalate (wordsOf s) ∧ parse m.phrase = .ok m ∧
      (ofEntropy m.entropy).map phrase = .ok m.phrase) ∧
    (∀ s t : String, Text.Alike s.toList t.toList →
      parse s = parse t ∧ Wallet.seedOfPhrase s = Wallet.seedOfPhrase t) ∧
    (∀ count ∈ [12, 15, 18, 21, 24], ∀ random, ∃ m, generate count random = .ok m ∧
      (Text.words m.phrase.toList).length = count ∧ parse m.phrase = .ok m) := by
  have hread : ∀ e text, (ofEntropy e).map phrase = .ok text → (parse text).map entropy = .ok e := by
    intro e text h
    obtain ⟨m, rfl, rfl⟩ := (map_phrase_eq_ok_iff e text).mp h
    exact (map_entropy_eq_ok_iff _ _).mpr ⟨m, wordsOf_phrase m, rfl⟩
  refine ⟨fun e => ?_, fun e text h => ⟨?_, hread e text h⟩, fun s e => ?_, fun e e' text h h' => ?_,
    fun s m h => ?_, fun s t h => ?_, fun count hcount random => ?_⟩
  · constructor
    · rintro ⟨text, h⟩
      obtain ⟨m, rfl, -⟩ := (map_phrase_eq_ok_iff e text).mp h
      exact m.supported
    · intro h
      exact ⟨_, (map_phrase_eq_ok_iff e _).mpr ⟨⟨e, h⟩, rfl, rfl⟩⟩
  · obtain ⟨m, rfl, rfl⟩ := (map_phrase_eq_ok_iff e text).mp h
    rw [words_toList_phrase, List.length_map, length_words, Nat.mul_div_assoc 3 m.four_dvd]
  · rw [map_entropy_eq_ok_iff, map_phrase_eq_ok_iff]
    refine exists_congr fun m => ?_
    rw [← intercalate_wordsOf_eq_iff, and_comm]
  · have hentropy := hread e' text h'
    rw [hread e text h] at hentropy
    exact Except.ok.inj hentropy
  · have hwords := (parse_eq_ok_iff s m).mp h
    exact ⟨(intercalate_wordsOf_eq_iff s m).mpr hwords, parse_phrase m,
      (map_phrase_eq_ok_iff _ _).mpr ⟨m, rfl, rfl⟩⟩
  · have hparse := parse_eq_of_alike h
    exact ⟨hparse, by rw [Wallet.seedOfPhrase, Wallet.seedOfPhrase, hparse]⟩
  · obtain ⟨m, hm, hlen⟩ := exists_generate hcount random
    exact ⟨m, hm, by rw [words_toList_phrase, List.length_map, hlen], parse_phrase m⟩

/-- The phrase of zeros, and a text with other blanks between its words. -/
theorem entropy_phrase_correspondence_zeros :
    (ofEntropy (List.replicate 16 0)).map phrase
        = .ok (" ".intercalate (List.replicate 11 "abandon" ++ ["about"])) ∧
      (parse ("\u00a0\n".intercalate (List.replicate 11 "abandon" ++ ["about"]))).map entropy
        = .ok (List.replicate 16 0) := by
  have hphrase : (ofEntropy (List.replicate 16 0)).map phrase
      = .ok (" ".intercalate (List.replicate 11 "abandon" ++ ["about"])) := by decide +kernel
  refine ⟨hphrase, (entropy_phrase_correspondence.2.2.1 _ _).mpr (hphrase.trans ?_)⟩
  decide +kernel

end Mnemonic

end SeedWallet
