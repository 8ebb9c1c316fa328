import SeedWallet.Address
import SeedWallet.Proofs.Alphabet
import SeedWallet.Proofs.Digits

/-!
# Base 58 is canonical

Bytes and texts are the same digits in bases 256 and 58, leading zeros kept one by one, so decoding
accepts exactly the encodings. The checksum and the version byte are looked at only after that, and
both are determined by what was encoded.

- `Base58.decode?_eq_some_iff`: a text spells bytes exactly if it is their encoding.
- `Base58.length_encode_le`, `Base58.le_length_encode`: how long an encoding can be.
- `Base58Check.decode_eq_ok_iff`: the same with a checksum.
- `Address.decodeBase58_eq_ok_iff`: the same for addresses.
-/

namespace SeedWallet

/-! ## Digits in two bases -/

namespace Base58

/-- Encoding spells the values of the bytes in base 58. -/
theorem encode_eq (bs : Bytes) :
    encode bs = (Digits.rebase 256 58 (bs.map UInt8.toNat)).map digit := by
  have hzeros : ((bs.map UInt8.toNat).takeWhile (· == 0)).map digit
      = (bs.takeWhile (· == 0)).map fun _ => '1' := by
    rw [List.takeWhile_map, List.map_map]
    have hp : ((· == 0) ∘ UInt8.toNat) = (fun b : UInt8 => b == 0) := by
      funext b
      rw [Bool.eq_iff_iff]
      simp [← UInt8.toNat_inj]
    rw [hp]
    refine List.map_congr_left fun b hb => ?_
    have hb0 : b = 0 := by simpa using List.mem_takeWhile_imp hb
    rw [hb0]
    rfl
  rw [encode, Digits.rebase, List.map_append, hzeros, Digits.toNat_map_toNat]

/-- Decoding spells the values of the digits in base 256. -/
theorem decode?_eq (cs : List Char) :
    decode? cs = (cs.mapM value?).map fun ds => (Digits.rebase 58 256 ds).map UInt8.ofNat := by
  rw [decode?]
  congr 1
  funext ds
  rw [Digits.rebase, List.map_append]
  congr 1
  refine List.map_congr_left fun d hd => ?_
  rw [Digits.eq_zero_of_mem_takeWhile hd]
  rfl

/-- A text spells bytes exactly if it is their encoding. -/
theorem decode?_eq_some_iff (cs : List Char) (bs : Bytes) :
    decode? cs = some bs ↔ cs = encode bs := by
  rw [decode?_eq, Option.map_eq_some_iff, encode_eq]
  constructor
  · rintro ⟨ds, hds, rfl⟩
    obtain ⟨hlt, rfl⟩ := (mapM_value?_eq_some_iff cs ds).mp hds
    rw [Digits.map_toNat_map_ofNat fun d => Digits.lt_of_mem_rebase (by decide),
      Digits.rebase_rebase (by decide) hlt]
  · intro h
    refine ⟨Digits.rebase 256 58 (bs.map UInt8.toNat), ?_, ?_⟩
    · exact (mapM_value?_eq_some_iff _ _).mpr
        ⟨fun d => Digits.lt_of_mem_rebase (by decide), h⟩
    · rw [Digits.rebase_rebase (by decide) Digits.lt_of_mem_map_toNat, List.map_map]
      exact (List.map_congr_left fun b _ => UInt8.ofNat_toNat).trans (List.map_id bs)

theorem encode_injective {as bs : Bytes} (h : encode as = encode bs) : as = bs := by
  have hbs := (decode?_eq_some_iff (encode as) bs).mpr h
  rw [(decode?_eq_some_iff (encode as) as).mpr rfl] at hbs
  exact Option.some.inj hbs

/-- A leading zero byte is a leading digit of its own. -/
theorem encode_replicate_append (k : Nat) (bs : Bytes) :
    encode (List.replicate k 0 ++ bs) = List.replicate k '1' ++ encode bs := by
  rw [encode_eq, List.map_append, List.map_replicate]
  show (Digits.rebase 256 58 (List.replicate k 0 ++ bs.map UInt8.toNat)).map digit = _
  rw [Digits.rebase_replicate_append, List.map_append, List.map_replicate, encode_eq]
  rfl

/-- An encoding has at least a digit for each byte. -/
theorem le_length_encode (bs : Bytes) : bs.length ≤ (encode bs).length := by
  have hdigits : ∀ d ∈ Digits.rebase 256 58 (bs.map UInt8.toNat), d < 58 := fun d =>
    Digits.lt_of_mem_rebase (by decide)
  have hpow : ∀ n k, 58 ^ (n - k) ≤ 256 ^ (n - k) := fun n k => Nat.pow_le_pow_left (by decide) _
  have hle := Digits.length_rebase_le (by decide) hdigits (fun k _ => hpow _ k) (Nat.le_refl _)
  rw [Digits.rebase_rebase (by decide) Digits.lt_of_mem_map_toNat, List.length_map] at hle
  rwa [encode_eq, List.length_map]

/-- As many bytes as an address and its checksum have take at most 35 digits, whether or not some of
them are leading zeros. -/
theorem length_encode_le {bs : Bytes} (h : bs.length = 25) : (encode bs).length ≤ 35 := by
  have hpow : ∀ k ≤ 25, 256 ^ (25 - k) ≤ 58 ^ (35 - k) := by decide
  have hlen : (bs.map UInt8.toNat).length = 25 := by rw [List.length_map, h]
  rw [encode_eq, List.length_map]
  refine Digits.length_rebase_le (by decide) Digits.lt_of_mem_map_toNat ?_ (by omega)
  rw [hlen]
  exact hpow

end Base58

/-! ## The checksum -/

namespace Base58Check

/-- A text has a payload exactly if it is the payload's text. -/
theorem decode_eq_ok_iff (text : String) (payload : Bytes) :
    decode text = .ok payload ↔ text = encode payload := by
  constructor
  · intro h
    unfold decode at h
    split at h
    · -- a foreign character
      cases h
    · rename_i bs hbs
      rw [Base58.decode?_eq_some_iff] at hbs
      split at h
      · -- too short for a checksum
        cases h
      · dsimp only at h
        split at h
        · rename_i hsum
          cases h
          rw [encode, hsum, List.take_append_drop, ← hbs, String.ofList_toList]
        · cases h
  · rintro rfl
    have hbs := (Base58.decode?_eq_some_iff (encode payload).toList
      (payload ++ checksum payload)).mpr (by rw [encode, String.toList_ofList])
    have hlen : (payload ++ checksum payload).length = payload.length + checksumSize := by simp
    unfold decode
    rw [hbs]
    dsimp only
    rw [hlen, if_neg (by omega), Nat.add_sub_cancel, List.take_left, List.drop_left, if_pos rfl]

end Base58Check

/-! ## Addresses -/

namespace Address

/-- A text stands for a version byte and a hash exactly if it is their address and the version byte
is a known one. -/
theorem decodeBase58_eq_ok_iff (address : String) (version : UInt8) (hash : KeyHash) :
    decodeBase58 address = .ok (version, hash) ↔
      (version ∈ keyVersions ∨ version ∈ scriptVersions) ∧
        address = encodeBase58 version hash := by
  rw [encodeBase58, ← Base58Check.decode_eq_ok_iff]
  constructor
  · intro h
    unfold decodeBase58 at h
    split at h
    -- the four faults of the text, then the two of the payload
    · cases h
    · cases h
    · cases h
    · cases h
    · rename_i hdecode
      split at h
      · split at h
        · rename_i hlen hversion
          cases h
          exact ⟨hversion, hdecode⟩
        · cases h
      · cases h
  · rintro ⟨hversion, hdecode⟩
    unfold decodeBase58
    rw [hdecode]
    dsimp only
    rw [dif_pos hash.property, if_pos hversion]

/-- What an accepted text looks like: the digits of 25 bytes. -/
theorem exists_encode_of_decodeBase58 {address : String} {x : UInt8 × KeyHash}
    (h : decodeBase58 address = .ok x) :
    ∃ bs : Bytes, bs.length = 25 ∧ address.toList = Base58.encode bs := by
  obtain ⟨version, hash⟩ := x
  obtain ⟨-, rfl⟩ := (decodeBase58_eq_ok_iff address version hash).mp h
  refine ⟨version :: hash.val ++ Base58Check.checksum (version :: hash.val), ?_, ?_⟩
  · rw [List.length_append, List.length_cons, hash.property, Base58Check.length_checksum]
    rfl
  · rw [encodeBase58, Base58Check.encode, String.toList_ofList]

/-- An address has between 25 and 35 characters. -/
theorem length_of_decodeBase58 {address : String} {x : UInt8 × KeyHash}
    (h : decodeBase58 address = .ok x) :
    25 ≤ address.toList.length ∧ address.toList.length ≤ 35 := by
  obtain ⟨bs, hlen, hdigits⟩ := exists_encode_of_decodeBase58 h
  have hlow := Base58.le_length_encode bs
  rw [hdigits]
  exact ⟨by omega, Base58.length_encode_le hlen⟩

/-- Digits `1` in front of an address are zero bytes too many. -/
theorem not_decodeBase58_replicate_append {address : String} {x : UInt8 × KeyHash}
    (h : decodeBase58 address = .ok x) {k : Nat} (hk : 0 < k) (y : UInt8 × KeyHash) :
    decodeBase58 (String.ofList (List.replicate k '1' ++ address.toList)) ≠ .ok y := by
  intro hpadded
  -- both are 25 bytes, but the longer text spells `k` zero bytes more
  obtain ⟨bs, hlen, hdigits⟩ := exists_encode_of_decodeBase58 h
  obtain ⟨cs, hlen', hdigits'⟩ := exists_encode_of_decodeBase58 hpadded
  rw [String.toList_ofList, hdigits, ← Base58.encode_replicate_append] at hdigits'
  have hcs := congrArg List.length (Base58.encode_injective hdigits')
  rw [List.length_append, List.length_replicate] at hcs
  omega

/-- One text stands for one version byte and hash. -/
theorem eq_of_decodeBase58 {a b : String} {x : UInt8 × KeyHash} (ha : decodeBase58 a = .ok x)
    (hb : decodeBase58 b = .ok x) : a = b := by
  obtain ⟨version, hash⟩ := x
  rw [((decodeBase58_eq_ok_iff a version hash).mp ha).2,
    ((decodeBase58_eq_ok_iff b version hash).mp hb).2]

/-- The text of a payload of another length than an address has is no address. -/
theorem not_decodeBase58_encode {payload : Bytes} (h : payload.length ≠ 21)
    (x : UInt8 × KeyHash) : decodeBase58 (Base58Check.encode payload) ≠ .ok x := by
  obtain ⟨version, hash⟩ := x
  intro hdecode
  obtain ⟨-, hencode⟩ := (decodeBase58_eq_ok_iff _ version hash).mp hdecode
  rw [encodeBase58, ← Base58Check.decode_eq_ok_iff,
    (Base58Check.decode_eq_ok_iff _ payload).mpr rfl] at hencode
  cases hencode
  rw [List.length_cons, hash.property] at h
  exact h rfl

/-- **Base 58 addresses are canonical**: a text is accepted exactly if it is the address of a known
version byte and a hash. So no two texts stand for the same address, digits `1` can neither be put in
front of an address nor taken away from it, an address has 25 to 35 characters, and the text of a
payload that is too short or too long is never accepted. The beginning of an address may well be an
address too, but not that of the same version byte and hash. -/
theorem decodeBase58_canonical :
    (∀ address version hash, decodeBase58 address = .ok (version, hash) ↔
      version ∈ [0x00, 0x6f, 0x05, 0xc4] ∧ address = encodeBase58 version hash) ∧
    (∀ a b x, decodeBase58 a = .ok x → decodeBase58 b = .ok x → a = b) ∧
    (∀ address k x, 0 < k → decodeBase58 address = .ok x →
      ∀ y, decodeBase58 (String.ofList (List.replicate k '1' ++ address.toList)) ≠ .ok y) ∧
    (∀ a b x y, decodeBase58 a = .ok x → decodeBase58 b = .ok y → a.toList <+: b.toList →
      a ≠ b → x ≠ y) ∧
    (∀ address x, decodeBase58 address = .ok x →
      25 ≤ address.toList.length ∧ address.toList.length ≤ 35) ∧
    (∀ payload x, payload.length ≠ 21 → decodeBase58 (Base58Check.encode payload) ≠ .ok x) := by
  refine ⟨fun address version hash => ?_, fun a b x => eq_of_decodeBase58,
    fun address k x hk h => not_decodeBase58_replicate_append h hk, ?_,
    fun address x => length_of_decodeBase58, fun payload x h => not_decodeBase58_encode h x⟩
  · have hknown : version ∈ [0x00, 0x6f, 0x05, 0xc4] ↔
        version ∈ keyVersions ∨ version ∈ scriptVersions := by
      rw [← List.mem_append]
      rfl
    rw [hknown, decodeBase58_eq_ok_iff]
  · rintro a b x y ha hb - hne rfl
    exact hne (eq_of_decodeBase58 ha hb)

/-- The address of twenty zero bytes, most of whose characters are leading zeros, and the same with
one more of them. -/
theorem decodeBase58_canonical_zeros :
    decodeBase58 (encodeBase58 0x00 ⟨List.replicate 20 0, rfl⟩)
        = .ok (0x00, ⟨List.replicate 20 0, rfl⟩) ∧
      decodeBase58 (String.ofList (List.replicate 1 '1' ++
        (encodeBase58 0x00 ⟨List.replicate 20 0, rfl⟩).toList))
          ≠ .ok (0x00, ⟨List.replicate 20 0, rfl⟩) := by
  obtain ⟨hcanonical, -, hpadded, -⟩ := decodeBase58_canonical
  have h : decodeBase58 (encodeBase58 0x00 ⟨List.replicate 20 0, rfl⟩)
      = .ok (0x00, ⟨List.replicate 20 0, rfl⟩) := (hcanonical _ _ _).mpr ⟨by decide, rfl⟩
  exact ⟨h, hpadded _ 1 _ (by decide) h _⟩

/-- The checksum does not rule out that the beginning of an address is an address: this one is still
accepted, as that of another hash, without its last character. -/
theorem decodeBase58_beginning :
    decodeBase58 "16HgC8KRBEhXYbF4riJyJFN3wRqyyiYwEB" =
        .ok (0x00, ⟨[58, 0, 0, 0, 0, 0, 0, 0, 0, 0, 0, 0, 0, 0, 0, 2, 47, 225, 146, 182], rfl⟩) ∧
      decodeBase58 "16HgC8KRBEhXYbF4riJyJFN3wRqyyiYwE" =
        .ok (0x00, ⟨[1, 0, 0, 0, 0, 0, 0, 0, 0, 0, 0, 0, 0, 0, 0, 0, 9, 167, 51, 20], rfl⟩) ∧
      "16HgC8KRBEhXYbF4riJyJFN3wRqyyiYwE".toList <+: "16HgC8KRBEhXYbF4riJyJFN3wRqyyiYwEB".toList ∧
      "16HgC8KRBEhXYbF4riJyJFN3wRqyyiYwE" ≠ "16HgC8KRBEhXYbF4riJyJFN3wRqyyiYwEB" := by
  decide +kernel

end Address

end SeedWallet
