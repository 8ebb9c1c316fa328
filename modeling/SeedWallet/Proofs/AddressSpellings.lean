import SeedWallet.Proofs.AddressSearch
import SeedWallet.Proofs.WrittenAddresses

/-!
# Searching for the spellings of an address

A native segwit address has two spellings that are read alike, in lower case and in capitals. A search
compares texts, and a wallet writes its addresses in lower case, so it finds its own address in the
spelling that it writes, and in capitals it finds none.

- `Address.decodeSegwit_eq_written_iff`: the two spellings of an address, which are different texts.
- `Wallet.OfZeros.recordAt_first`: the first address of one phrase, derived step by step.
- `Wallet.exists_written_of_recordAt`: the addresses of a wallet with a native segwit profile.
- `Wallet.find_own`: the address of a place is found, unless an earlier place fails.
- `Wallet.find_capitals_ne_ok`: no address is found in capitals.
- `Wallet.finds_own_spelling_only`: what a search does with what is read as an address of the wallet.
-/

namespace SeedWallet

/-! ## The two spellings -/

namespace Address

variable (network : Network) (hash : KeyHash)

/-- What is read as a written address is that address, or the same in capitals. -/
theorem decodeSegwit_eq_written_iff (target : String) :
    decodeSegwit target = decodeSegwit (written .nativeSegwit network hash) ↔
      target = written .nativeSegwit network hash ∨
        target = Text.asciiToUpper (written .nativeSegwit network hash) := by
  rw [decodeSegwit_written_nativeSegwit, decodeSegwit_eq_ok_iff]
  exact and_iff_right ⟨hrp_mem_knownHrps network, rfl, .inl hash.property⟩

/-- A written address is in lower case. -/
theorem asciiToLower_written :
    Text.asciiToLower (written .nativeSegwit network hash) = written .nativeSegwit network hash :=
  Segwit.asciiToLower_encode (map_toLower_of_mem_knownHrps (hrp_mem_knownHrps network)) 0 hash.val

/-- It begins with a letter, which is another one in capitals. -/
theorem asciiToUpper_written_ne :
    Text.asciiToUpper (written .nativeSegwit network hash) ≠ written .nativeSegwit network hash := by
  intro h
  have hfirst := congrArg (fun s : String => s.toList.head?) h
  have hhead : ∃ c, (written .nativeSegwit network hash).toList.head? = some c ∧ c.toUpper ≠ c := by
    rw [written, Segwit.toList_encode]
    cases network <;> exact ⟨_, rfl, by decide⟩
  obtain ⟨c, hc, hupper⟩ := hhead
  simp only [toList_asciiToUpper, List.head?_map, hc, Option.map_some, Option.some.injEq] at hfirst
  exact hupper hfirst

/-- So no written address is in capitals. -/
theorem written_ne_asciiToUpper (network' : Network) (hash' : KeyHash) :
    written .nativeSegwit network' hash' ≠ Text.asciiToUpper (written .nativeSegwit network hash) := by
  intro h
  have hlower := congrArg Text.asciiToLower h
  rw [asciiToLower_written, asciiToLower_asciiToUpper, asciiToLower_written] at hlower
  rw [hlower] at h
  exact asciiToUpper_written_ne network hash h.symm

end Address

/-! ## The first address of a phrase

Each of the keys on the way carries the proof that it is a child of the one before, so no evaluation goes
through more than one derivation.
-/

namespace Wallet

namespace OfZeros

/-- The master key of the phrase for sixteen zero bytes. -/
def master : ExtendedKey where
  network := .mainnet
  depth := 0
  childNumber := .normal 0
  secret := ⟨0x1837c1be8e2995ec11cda2b066151be2cfb48adf9e47b151d46adab3a21cdf67, by decide⟩
  chainCode := Bytes.ofNat 32 0x7923408dadd3c7b56eed15567707ae5e5dca089de972e07f3b860450e2a3b70e

/-- Its child for the purpose. -/
def purpose : { key // master.child (.hardened 84) = .ok key } where
  val :=
    { network := .mainnet
      depth := 1
      childNumber := .hardened 84
      secret := ⟨0xf36a166922514e2e3c7f09e139b0aeff039cbf020606670b27554f7fe1a24d9c, by decide⟩
      chainCode := Bytes.ofNat 32 0xca6a9276f135e836a2c3222f4901cc0f323adcbb39f746ef3c1ab2b7460209e0 }
  property := by decide +kernel

/-- Its child for the coin type. -/
def coin : { key // purpose.val.child (.hardened 0) = .ok key } where
  val :=
    { network := .mainnet
      depth := 2
      childNumber := .hardened 0
      secret := ⟨0xfe87dbc6d34a7e2aca1d727d3922eaf7c21a7f7c95bb8858dd8429a8a69c14f4, by decide⟩
      chainCode := Bytes.ofNat 32 0x6c2d070f9d27f0f5c7900f164b4037e09301826bb874202f2f1c8095413d36bb }
  property := by decide +kernel

/-- Its child for the account. -/
def account : { key // coin.val.child (.hardened 0) = .ok key } where
  val :=
    { network := .mainnet
      depth := 3
      childNumber := .hardened 0
      secret := ⟨0xe14f274d16ca0d91031b98b162618061d03930fa381af6d4caf44b01819ab6d4, by decide⟩
      chainCode := Bytes.ofNat 32 0x4a53a0ab21b9dc95869c4e92a161194e03c0ef3ff5014ac692f433c4765490fc }
  property := by decide +kernel

/-- Its child for payments. -/
def chain : { key // account.val.child (.normal 0) = .ok key } where
  val :=
    { network := .mainnet
      depth := 4
      childNumber := .normal 0
      secret := ⟨0x7c5416a28c33a0343b6267a342bc2235bcb5e1c1eb80ff0c718a8015b560c790, by decide⟩
      chainCode := Bytes.ofNat 32 0x5fb17f32471143583da296b3af79da1a98f63db12389a0150a67610620925a38 }
  property := by decide +kernel

/-- Its first child. -/
def first : { key // chain.val.child (.normal 0) = .ok key } where
  val :=
    { network := .mainnet
      depth := 5
      childNumber := .normal 0
      secret := ⟨0x4604b4b710fe91f584fff084e1a9159fe4f8408fff380596a604948474ce4fa3, by decide⟩
      chainCode := Bytes.ofNat 32 0xab52cce8c3dc905c885ff8aa6d3374df3c27a38363acd3d623791b45017577ed }
  property := by decide +kernel

/-- The wallet of the phrase. -/
def wallet : Wallet :=
  ⟨" ".intercalate (List.replicate 11 "abandon" ++ ["about"]), master, .importDefault⟩

theorem atPath_first : master.atPath (.ofProfile .importDefault .receive 0) = .ok first.val := by
  have hsteps : (Path.ofProfile .importDefault .receive 0).children =
      .ok [.hardened 84, .hardened 0, .hardened 0, .normal 0, .normal 0] := by decide
  rw [ExtendedKey.atPath, hsteps, Result.ok_bind, ExtendedKey.descend_of_child purpose.property,
    ExtendedKey.descend_of_child coin.property, ExtendedKey.descend_of_child account.property,
    ExtendedKey.descend_of_child chain.property, ExtendedKey.descend_of_child first.property,
    ExtendedKey.descend_nil]

theorem build_first :
    Address.build first.val.keyHash .importDefault =
      .ok "bc1qcr8te4kr609gcawutmrza0j4xv80jy8z306fyu" := by decide +kernel

/-- Its first address. -/
theorem recordAt_first :
    wallet.recordAt (0, .receive) =
      .ok ⟨"bc1qcr8te4kr609gcawutmrza0j4xv80jy8z306fyu", .ofProfile .importDefault .receive 0,
        .importDefault, first.val.publicKey.hex⟩ := by
  rw [recordAt_eq, addressAt]
  exact Result.bind_eq_ok_iff.mpr
    ⟨first.val, atPath_first, Result.bind_eq_ok_iff.mpr ⟨_, build_first, rfl⟩⟩

end OfZeros

end Wallet

/-! ## Searches -/

namespace Wallet

variable {w : Wallet} {p : Place} {m : AddressRecord} {limit : UInt32}

/-- Under a native segwit profile the addresses of a wallet are written as such. -/
theorem exists_written_of_recordAt (hpurpose : w.profile.purpose = .nativeSegwit)
    (h : w.recordAt p = .ok m) :
    ∃ hash, m.address = Address.written .nativeSegwit w.profile.network hash := by
  rw [recordAt_eq, addressAt_eq_ok_iff] at h
  obtain ⟨key, -, haddress, -⟩ := h
  rw [Address.build_eq, hpurpose] at haddress
  exact ⟨key.keyHash, (Except.ok.inj haddress).symm⟩

/-- The address of a place is found there or earlier, unless an earlier place fails first. -/
theorem find_own (h : w.recordAt p = .ok m) (hlimit : p.1 < limit) :
    (∃ found, w.find m.address limit = .ok found ∧ found.address = m.address) ∨
      ∃ q e, Earlier q p ∧ w.recordAt q = .error e ∧ w.find m.address limit = .error e := by
  obtain ⟨q, hqp, hfind, haddress⟩ := find_ends hlimit h
  cases hrecord : w.recordAt q with
  | ok found => exact .inl ⟨found, hfind.trans hrecord, haddress found hrecord⟩
  | error e =>
    rcases hqp with rfl | hqp
    · cases h.symm.trans hrecord
    · exact .inr ⟨q, e, hqp, hrecord, hfind.trans hrecord⟩

/-- Under a native segwit profile no address is found in capitals. -/
theorem find_capitals_ne_ok (hpurpose : w.profile.purpose = .nativeSegwit) (network : Network)
    (hash : KeyHash) (limit : UInt32) (found : AddressRecord) :
    w.find (Text.asciiToUpper (Address.written .nativeSegwit network hash)) limit ≠ .ok found := by
  intro h
  obtain ⟨-, q, -, -, -, hq, haddress⟩ := (find_eq_ok_iff w _ limit found).mp h
  obtain ⟨hash', hwritten⟩ := exists_written_of_recordAt hpurpose hq
  exact Address.written_ne_asciiToUpper network hash _ hash' (hwritten.symm.trans haddress)

/-- A search in capitals goes past every place that has a record. -/
theorem find_capitals_eq_notFound_iff (hpurpose : w.profile.purpose = .nativeSegwit)
    (network : Network) (hash : KeyHash) (limit : UInt32) :
    w.find (Text.asciiToUpper (Address.written .nativeSegwit network hash)) limit =
        .error (.notFound (Text.asciiToUpper (Address.written .nativeSegwit network hash))) ↔
      ∀ q : Place, q.1 < limit → ∃ r, w.recordAt q = .ok r := by
  rw [find_eq_notFound_iff]
  simp only [mem_places_iff]
  refine forall₂_congr fun q _ => ⟨fun ⟨r, hr, _⟩ => ⟨r, hr⟩, fun ⟨r, hr⟩ => ⟨r, hr, ?_⟩⟩
  obtain ⟨hash', hwritten⟩ := exists_written_of_recordAt hpurpose hr
  rw [hwritten]
  exact Address.written_ne_asciiToUpper network hash _ hash'

/-- **A wallet finds its own addresses in the spelling that it writes.** Let a wallet with a native segwit
profile have an address at a place below the limit. What is read as that address is the address itself or
the same in capitals, which is another text. The address itself is found, with a record that is read as
the same, or the search fails with the failure of an earlier place; it never finds nothing. In capitals
nothing is ever found: either a place below the limit fails, or the search says that there is none. -/
theorem finds_own_spelling_only (hpurpose : w.profile.purpose = .nativeSegwit)
    (h : w.recordAt p = .ok m) (hlimit : p.1 < limit) (target : String)
    (htarget : Address.decodeSegwit target = Address.decodeSegwit m.address) :
    (∃ program, Address.decodeSegwit m.address = .ok program) ∧
    (target = m.address ∨ target = Text.asciiToUpper m.address) ∧
    Text.asciiToUpper m.address ≠ m.address ∧
    (target = m.address →
      ((∃ found, w.find target limit = .ok found ∧
          Address.decodeSegwit found.address = Address.decodeSegwit target) ∨
        ∃ q e, Earlier q p ∧ w.recordAt q = .error e ∧ w.find target limit = .error e) ∧
      w.find target limit ≠ .error (.notFound target)) ∧
    (target = Text.asciiToUpper m.address →
      (∀ found, w.find target limit ≠ .ok found) ∧
      (w.find target limit = .error (.notFound target) ↔
        ∀ q : Place, q.1 < limit → ∃ r, w.recordAt q = .ok r)) := by
  obtain ⟨hash, hwritten⟩ := exists_written_of_recordAt hpurpose h
  refine ⟨⟨_, hwritten ▸ Address.decodeSegwit_written_nativeSegwit _ hash⟩, ?_, ?_, ?_, ?_⟩
  · rw [hwritten] at htarget ⊢
    exact (Address.decodeSegwit_eq_written_iff _ hash target).mp htarget
  · rw [hwritten]
    exact Address.asciiToUpper_written_ne _ hash
  · rintro rfl
    rcases find_own h hlimit with ⟨found, hfound, haddress⟩ | ⟨q, e, hqp, hq, hfind⟩
    · refine ⟨.inl ⟨found, hfound, by rw [haddress]⟩, ?_⟩
      rw [hfound]
      exact nofun
    · refine ⟨.inr ⟨q, e, hqp, hq, hfind⟩, fun hnone => ?_⟩
      rw [hfind] at hnone
      cases hnone
      exact recordAt_ne_notFound w _ q hq
  · rintro rfl
    rw [hwritten]
    exact ⟨find_capitals_ne_ok hpurpose _ hash limit, find_capitals_eq_notFound_iff hpurpose _ hash limit⟩

/-- The first address is found as it is written, and not in capitals. -/
theorem finds_own_spelling_only_ofZeros :
    (∃ found, OfZeros.wallet.find "bc1qcr8te4kr609gcawutmrza0j4xv80jy8z306fyu" 5 = .ok found) ∧
      ∀ found, OfZeros.wallet.find "BC1QCR8TE4KR609GCAWUTMRZA0J4XV80JY8Z306FYU" 5 ≠ .ok found := by
  have hlimit : ((0, .receive) : Place).1 < (5 : UInt32) := by decide
  obtain ⟨-, -, -, hown, -⟩ := finds_own_spelling_only rfl OfZeros.recordAt_first hlimit
    "bc1qcr8te4kr609gcawutmrza0j4xv80jy8z306fyu" rfl
  obtain ⟨-, -, -, -, hcapitals⟩ := finds_own_spelling_only rfl OfZeros.recordAt_first hlimit
    "BC1QCR8TE4KR609GCAWUTMRZA0J4XV80JY8Z306FYU" (by decide +kernel)
  refine ⟨?_, (hcapitals (by decide +kernel)).1⟩
  rcases (hown rfl).1 with ⟨found, hfound, -⟩ | ⟨q, e, hqp, -⟩
  · exact ⟨found, hfound⟩
  · -- no place is earlier than the first
    revert hqp
    simp [Earlier]

/-- The first address in capitals is read as that address, and is not found. -/
theorem capitals_not_found :
    (∃ m program, OfZeros.wallet.recordAt (0, .receive) = .ok m ∧
      Address.decodeSegwit m.address = .ok program ∧
      Address.decodeSegwit "BC1QCR8TE4KR609GCAWUTMRZA0J4XV80JY8Z306FYU" = .ok program ∧
      ∀ found, OfZeros.wallet.find "BC1QCR8TE4KR609GCAWUTMRZA0J4XV80JY8Z306FYU" 5 ≠ .ok found) ∧
    ¬∀ (w : Wallet) (p : Place) (m : AddressRecord) (limit : UInt32) (target : String) program,
      w.profile.purpose = .nativeSegwit → w.recordAt p = .ok m → p.1 < limit →
      Address.decodeSegwit target = .ok program → Address.decodeSegwit m.address = .ok program →
      ∃ found, w.find target limit = .ok found ∧ Address.decodeSegwit found.address = .ok program := by
  have hwritten : "bc1qcr8te4kr609gcawutmrza0j4xv80jy8z306fyu" =
      Address.written .nativeSegwit .mainnet OfZeros.first.val.keyHash := by decide +kernel
  have hcapitals : "BC1QCR8TE4KR609GCAWUTMRZA0J4XV80JY8Z306FYU" =
      Text.asciiToUpper (Address.written .nativeSegwit .mainnet OfZeros.first.val.keyHash) := by
    rw [← hwritten]
    decide +kernel
  have hread := Address.decodeSegwit_written_nativeSegwit .mainnet OfZeros.first.val.keyHash
  have hreadCapitals := ((Address.decodeSegwit_eq_written_iff .mainnet OfZeros.first.val.keyHash _).mpr
    (.inr hcapitals)).trans hread
  rw [← hwritten] at hread
  have hnone : ∀ found,
      OfZeros.wallet.find "BC1QCR8TE4KR609GCAWUTMRZA0J4XV80JY8Z306FYU" 5 ≠ .ok found := by
    rw [hcapitals]
    exact find_capitals_ne_ok rfl .mainnet OfZeros.first.val.keyHash 5
  refine ⟨⟨_, _, OfZeros.recordAt_first, hread, hreadCapitals, hnone⟩, fun hall => ?_⟩
  obtain ⟨found, hfound, -⟩ :=
    hall _ _ _ 5 _ _ rfl OfZeros.recordAt_first (by decide) hreadCapitals hread
  exact hnone found hfound

end Wallet

end SeedWallet
