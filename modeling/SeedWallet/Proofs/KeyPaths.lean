import SeedWallet.Proofs.AddressRecords

/-!
# Paths and the numbers of their steps

A path with components below 2 ^ 31 has five steps, and the numbers of the steps are the components, the
first three of them raised by 2 ^ 31. Raising loses nothing, so the numbers tell paths apart, and none of
them leads to the signing key. A path with a larger component has no steps; this is the one way in which
the record of an address can fail for its path.

- `Path.tooLarge?`: the first component that a path cannot be derived for.
- `Path.children_eq_error_iff`: the failure names it.
- `Path.map_toNat_number_steps`, `Path.eq_of_numbers`: the numbers, and that they determine the path.
- `Wallet.addressAt_eq_invalidPath_iff`: records that fail for their path.
- `Path.children_faithful`: what follows for paths and for the addresses of wallets.
-/

namespace SeedWallet

theorem lt_hardenedOffset_iff (n : UInt32) : n < hardenedOffset ↔ n.toNat < 2 ^ 31 :=
  UInt32.lt_iff_toNat_lt

/-- Raising a number that has room for it does not wrap around. -/
theorem toNat_add_hardenedOffset {n : UInt32} (h : n.toNat < 2 ^ 31) :
    (n + hardenedOffset).toNat = n.toNat + 2 ^ 31 := by
  have hoffset : hardenedOffset.toNat = 2 ^ 31 := rfl
  rw [UInt32.toNat_add, hoffset, Nat.mod_eq_of_lt (by omega)]

theorem Purpose.number_injective {p q : Purpose} (h : p.number = q.number) : p = q := by
  have hread := ofNumber_number p
  rw [h, ofNumber_number] at hread
  exact (Except.ok.inj hread).symm

theorem Chain.number_injective {c d : Chain} (h : c.number = d.number) : c = d := by
  have hread := ofNumber_number c
  rw [h, ofNumber_number] at hread
  exact (Except.ok.inj hread).symm

namespace Path

/-! ## Paths that cannot be derived -/

/-- The first component that is too large; those of purpose and chain never are. -/
def tooLarge? (p : Path) : Option UInt32 :=
  [p.coin, p.account, p.index].find? fun n => hardenedOffset ≤ n

theorem children_eq_of_tooLarge? (p : Path) :
    p.children = match p.tooLarge? with
      | some n => .error (p.outOfRange n)
      | none => .ok p.steps := by
  rw [children_eq, tooLarge?]
  by_cases hcoin : hardenedOffset ≤ p.coin
  · simp [hcoin]
  · by_cases haccount : hardenedOffset ≤ p.account
    · simp [hcoin, haccount]
    · by_cases hindex : hardenedOffset ≤ p.index
      · simp [hcoin, haccount, hindex]
      · simp [hcoin, haccount, hindex]

/-- A path that cannot be derived fails with the first component that is too large. -/
theorem children_eq_error_iff (p : Path) (e : WalletError) :
    p.children = .error e ↔ ∃ n, p.tooLarge? = some n ∧ e = p.outOfRange n := by
  rw [children_eq_of_tooLarge?]
  cases p.tooLarge? <;> simp [eq_comm]

/-- Whether a path can be derived depends on three components. -/
theorem exists_children_iff (p : Path) :
    (∃ cs, p.children = .ok cs) ↔
      p.coin.toNat < 2 ^ 31 ∧ p.account.toNat < 2 ^ 31 ∧ p.index.toNat < 2 ^ 31 := by
  simp only [children_eq_ok_iff, lt_hardenedOffset_iff, exists_and_left, exists_eq, and_true]

theorem exists_invalidPath_iff (p : Path) :
    (∃ reason, p.children = .error (.invalidPath reason)) ↔
      2 ^ 31 ≤ p.coin.toNat ∨ 2 ^ 31 ≤ p.account.toNat ∨ 2 ^ 31 ≤ p.index.toNat := by
  have hderived := p.exists_children_iff
  cases hchildren : p.children with
  | ok cs =>
    have hsmall := hderived.mp ⟨cs, hchildren⟩
    constructor
    · nofun
    · omega
  | error e =>
    obtain ⟨reason, rfl⟩ := eq_invalidPath_of_children hchildren
    have hlarge : ¬ ∃ cs, p.children = .ok cs := by
      rintro ⟨cs, hcs⟩
      rw [hchildren] at hcs
      cases hcs
    rw [hderived] at hlarge
    constructor
    · omega
    · exact fun _ => ⟨reason, rfl⟩

/-! ## The numbers of the steps -/

theorem length_steps (p : Path) : p.steps.length = 5 := rfl

theorem map_number_steps (p : Path) :
    p.steps.map ChildNumber.number =
      [p.purpose.number + hardenedOffset, p.coin + hardenedOffset, p.account + hardenedOffset,
        p.chain.number, p.index] := rfl

/-- The numbers of a path that can be derived, none of which wraps around. -/
theorem map_toNat_number_steps {p : Path} (hcoin : p.coin.toNat < 2 ^ 31)
    (haccount : p.account.toNat < 2 ^ 31) :
    p.steps.map (fun c => c.number.toNat) =
      [p.purpose.number.toNat + 2 ^ 31, p.coin.toNat + 2 ^ 31, p.account.toNat + 2 ^ 31,
        p.chain.number.toNat, p.index.toNat] := by
  have hpurpose := (lt_hardenedOffset_iff _).mp (purpose_lt p.purpose)
  have hmap : p.steps.map (fun c => c.number.toNat) =
      (p.steps.map ChildNumber.number).map UInt32.toNat := by
    rw [List.map_map]
    rfl
  rw [hmap, map_number_steps]
  simp only [List.map_cons, List.map_nil, toNat_add_hardenedOffset hpurpose,
    toNat_add_hardenedOffset hcoin, toNat_add_hardenedOffset haccount]

/-- The numbers of its steps determine a path. -/
theorem eq_of_numbers {p q : Path}
    (h : p.steps.map ChildNumber.number = q.steps.map ChildNumber.number) : p = q := by
  simp only [map_number_steps, List.cons.injEq, UInt32.add_left_inj, and_true] at h
  obtain ⟨hpurpose, hcoin, haccount, hchain, hindex⟩ := h
  obtain ⟨purpose, coin, account, chain, index⟩ := p
  obtain rfl : purpose = _ := Purpose.number_injective hpurpose
  obtain rfl : chain = _ := Chain.number_injective hchain
  obtain rfl : coin = _ := hcoin
  obtain rfl : account = _ := haccount
  obtain rfl : index = _ := hindex
  rfl

end Path

/-! ## Addresses of a wallet -/

namespace Wallet

variable (w : Wallet) (chain : Chain) (index : UInt32)

/-- A record fails for its path exactly if the path cannot be derived. -/
theorem addressAt_eq_invalidPath_iff (reason : String) :
    w.addressAt chain index = .error (.invalidPath reason) ↔
      (Path.ofProfile w.profile chain index).children = .error (.invalidPath reason) := by
  constructor
  · intro h
    rcases error_cases_of_addressAt h with hpath | hkey | ⟨n, haddress⟩
    · exact hpath
    · cases hkey
    · cases haddress
  · intro h
    rw [addressAt, ExtendedKey.atPath, h]
    rfl

/-- So it does exactly if the profile or the index has a number that is too large. -/
theorem exists_addressAt_eq_invalidPath_iff :
    (∃ reason, w.addressAt chain index = .error (.invalidPath reason)) ↔
      2 ^ 31 ≤ w.profile.coinType.toNat ∨ 2 ^ 31 ≤ w.profile.account.toNat ∨
        2 ^ 31 ≤ index.toNat := by
  simp only [addressAt_eq_invalidPath_iff]
  exact (Path.ofProfile w.profile chain index).exists_invalidPath_iff

/-- A record has the place that was asked for. -/
theorem path_of_addressAt {r : AddressRecord} (h : w.addressAt chain index = .ok r) :
    r.path.chain = chain ∧ r.path.index = index := by
  obtain ⟨key, -, -, hpath, -⟩ := (addressAt_eq_ok_iff w chain index r).mp h
  rw [hpath]
  exact ⟨rfl, rfl⟩

end Wallet

/-- **A path leads to one place of the key tree.** A path can be derived exactly if coin, account and index
are below 2 ^ 31. The numbers of its steps are then its components, the first three raised by 2 ^ 31, so
that they are those of no other path, and not that of the signing key; otherwise it fails with the first
component that is too large. An address of a wallet fails for its path exactly if the profile in force or
the index is to blame, and a record has the chain and the index that were asked for. -/
theorem Path.children_faithful :
    (∀ p : Path,
      ((∃ cs, p.children = .ok cs) ↔
        p.coin.toNat < 2 ^ 31 ∧ p.account.toNat < 2 ^ 31 ∧ p.index.toNat < 2 ^ 31) ∧
      (∀ cs, p.children = .ok cs →
        cs.map (fun c => c.number.toNat) =
          [p.purpose.number.toNat + 2 ^ 31, p.coin.toNat + 2 ^ 31, p.account.toNat + 2 ^ 31,
            p.chain.number.toNat, p.index.toNat] ∧
        cs ≠ [.normal ExtendedKey.signingIndex] ∧ cs.map ChildNumber.number ≠ [42]) ∧
      (∀ e, p.children = .error e ↔
        ∃ n, ([p.coin, p.account, p.index].find? fun n => hardenedOffset ≤ n) = some n ∧
          e = .invalidPath ("component " ++ Decimal.text n.toNat ++ " of " ++ p.text ++
            " exceeds 2^31 - 1"))) ∧
    (∀ (p q : Path) (cs ds : List ChildNumber), p.children = .ok cs → q.children = .ok ds →
      cs.map ChildNumber.number = ds.map ChildNumber.number → p = q) ∧
    (∀ (w : Wallet) (index : UInt32),
      ((∃ reason, w.receive index = .error (.invalidPath reason)) ↔
        2 ^ 31 ≤ w.profile.coinType.toNat ∨ 2 ^ 31 ≤ w.profile.account.toNat ∨
          2 ^ 31 ≤ index.toNat) ∧
      ((∃ reason, w.change index = .error (.invalidPath reason)) ↔
        2 ^ 31 ≤ w.profile.coinType.toNat ∨ 2 ^ 31 ≤ w.profile.account.toNat ∨
          2 ^ 31 ≤ index.toNat) ∧
      (∀ r, w.receive index = .ok r → r.path.chain = .receive ∧ r.path.index = index) ∧
      (∀ r, w.change index = .ok r → r.path.chain = .change ∧ r.path.index = index)) := by
  refine ⟨fun p => ⟨p.exists_children_iff, fun cs h => ?_, p.children_eq_error_iff⟩, ?_, ?_⟩
  · obtain ⟨⟨hcoin, haccount, -⟩, rfl⟩ := (p.children_eq_ok_iff cs).mp h
    rw [lt_hardenedOffset_iff] at hcoin haccount
    -- five steps are not one
    refine ⟨map_toNat_number_steps hcoin haccount, fun hsigning => ?_, fun hsigning => ?_⟩
    · have hlength := congrArg List.length hsigning
      rw [length_steps] at hlength
      cases hlength
    · have hlength := congrArg List.length hsigning
      rw [List.length_map, length_steps] at hlength
      cases hlength
  · intro p q cs ds hp hq hnumbers
    obtain ⟨-, rfl⟩ := (p.children_eq_ok_iff cs).mp hp
    obtain ⟨-, rfl⟩ := (q.children_eq_ok_iff ds).mp hq
    exact eq_of_numbers hnumbers
  · intro w index
    exact ⟨w.exists_addressAt_eq_invalidPath_iff .receive index,
      w.exists_addressAt_eq_invalidPath_iff .change index,
      fun _ => w.path_of_addressAt .receive index, fun _ => w.path_of_addressAt .change index⟩

end SeedWallet
