import SeedWallet.Wallet

/-!
# Derived addresses

What stands in the record of an address, and when there is none. A record fails only with the failure
of its path, its key or its address; it never says that something was not found, so a search can be
told apart from the records that it derives.

- `Path.children_eq_ok_iff`: the paths that can be derived.
- `Wallet.addressAt_eq_ok_iff`: what a record holds.
- `Wallet.error_cases_of_addressAt`, `Wallet.addressAt_ne_notFound`: how a record can fail; it is never
  missing.
-/

namespace SeedWallet

/-! ## Steps down the tree -/

namespace Path

/-- The five steps of a path that can be derived. -/
def steps (p : Path) : List ChildNumber :=
  [.hardened p.purpose.number, .hardened p.coin, .hardened p.account, .normal p.chain.number,
    .normal p.index]

theorem purpose_lt (p : Purpose) : p.number < hardenedOffset := by
  cases p <;> decide

theorem chain_lt (c : Chain) : c.number < hardenedOffset := by
  cases c <;> decide

/-- The first component that is too large is reported; purpose and chain never are. -/
theorem children_eq (p : Path) :
    p.children = if hardenedOffset ≤ p.coin then .error (p.outOfRange p.coin)
      else if hardenedOffset ≤ p.account then .error (p.outOfRange p.account)
      else if hardenedOffset ≤ p.index then .error (p.outOfRange p.index)
      else .ok p.steps := by
  simp only [children, ChildNumber.hardened?, ChildNumber.normal?, if_pos (purpose_lt p.purpose),
    if_pos (chain_lt p.chain), ← UInt32.not_lt]
  by_cases hcoin : p.coin < hardenedOffset
  · by_cases haccount : p.account < hardenedOffset
    · by_cases hindex : p.index < hardenedOffset
      · simp only [hcoin, haccount, hindex, not_true, if_true, if_false]
        rfl
      · simp only [hcoin, haccount, hindex, not_true, not_false_iff, if_true, if_false]
        rfl
    · simp only [hcoin, haccount, not_true, not_false_iff, if_true, if_false]
      rfl
  · simp only [hcoin, not_false_iff, if_true, if_false]
    rfl

/-- A path can be derived exactly if its coin, account and index are below the hardened numbers. -/
theorem children_eq_ok_iff (p : Path) (cs : List ChildNumber) :
    p.children = .ok cs ↔
      (p.coin < hardenedOffset ∧ p.account < hardenedOffset ∧ p.index < hardenedOffset) ∧
        cs = p.steps := by
  simp only [children_eq, ← UInt32.not_le]
  split
  · simp [*]
  · split
    · simp [*]
    · split
      · simp [*]
      · simp [*, eq_comm]

/-- A path that cannot be derived is reported as a wrong path. -/
theorem eq_invalidPath_of_children {p : Path} {e : WalletError} (h : p.children = .error e) :
    ∃ reason, e = .invalidPath reason := by
  rw [children_eq] at h
  split at h
  · cases h
    exact ⟨_, rfl⟩
  · split at h
    · cases h
      exact ⟨_, rfl⟩
    · split at h
      · cases h
        exact ⟨_, rfl⟩
      · cases h

end Path

namespace ExtendedKey

theorem descend_nil (key : ExtendedKey) : key.descend [] = .ok key := rfl

theorem descend_cons (key : ExtendedKey) (c : ChildNumber) (cs : List ChildNumber) :
    key.descend (c :: cs) = key.child c >>= fun next => next.descend cs :=
  List.foldlM_cons ..

/-- The steps behind the first one start from the child. -/
theorem descend_of_child {key next : ExtendedKey} {c : ChildNumber} (h : key.child c = .ok next)
    (cs : List ChildNumber) : key.descend (c :: cs) = next.descend cs := by
  rw [descend_cons, h, Result.ok_bind]

/-- There is one way in which a child can fail. -/
theorem eq_outOfRange_of_child {key : ExtendedKey} {c : ChildNumber} {e : WalletError}
    (h : key.child c = .error e) : e = outOfRange := by
  rw [child, childOfHalves] at h
  split at h
  · cases h
  · cases h
    rfl

/-- So there is for any number of steps. -/
theorem eq_outOfRange_of_descend {key : ExtendedKey} {cs : List ChildNumber} {e : WalletError}
    (h : key.descend cs = .error e) : e = outOfRange := by
  induction cs generalizing key with
  | nil => cases h
  | cons c cs ih =>
    rw [descend_cons, Result.bind_eq_error_iff] at h
    rcases h with h | ⟨next, -, h⟩
    · exact eq_outOfRange_of_child h
    · exact ih h

end ExtendedKey

/-- Building an address fails for nothing but the length of a program. -/
theorem Address.eq_invalidProgramLength_of_build {hash : KeyHash} {profile : Profile}
    {e : WalletError} (h : build hash profile = .error e) : ∃ n, e = .invalidProgramLength n := by
  unfold build at h
  split at h
  · cases h
  · cases h
  · unfold encodeSegwit at h
    split at h
    · cases h
    · cases h
      exact ⟨_, rfl⟩

/-! ## Records -/

namespace Wallet

variable (w : Wallet) (chain : Chain) (index : UInt32)

/-- A record holds the path, the profile in force, the key of the path and the address that the
profile gives the key. -/
theorem addressAt_eq_ok_iff (r : AddressRecord) :
    w.addressAt chain index = .ok r ↔
      ∃ key, w.master.atPath (.ofProfile w.profile chain index) = .ok key ∧
        Address.build key.keyHash w.profile = .ok r.address ∧
        r.path = .ofProfile w.profile chain index ∧ r.profile = w.profile ∧
        r.publicKey = key.publicKey.hex := by
  simp only [addressAt, Result.bind_eq_ok_iff]
  constructor
  · rintro ⟨key, hkey, address, haddress, h⟩
    cases h
    exact ⟨key, hkey, haddress, rfl, rfl, rfl⟩
  · rintro ⟨key, hkey, haddress, hpath, hprofile, hpublic⟩
    obtain ⟨address, path, profile, publicKey⟩ := r
    obtain rfl : path = _ := hpath
    obtain rfl : profile = _ := hprofile
    obtain rfl : publicKey = _ := hpublic
    exact ⟨key, hkey, address, haddress, rfl⟩

section

variable {w chain index}

/-- A record fails with the failure of its path, of a key on the way or of its address. -/
theorem error_cases_of_addressAt {e : WalletError} (h : w.addressAt chain index = .error e) :
    (Path.ofProfile w.profile chain index).children = .error e ∨ e = ExtendedKey.outOfRange ∨
      ∃ n, e = .invalidProgramLength n := by
  simp only [addressAt, ExtendedKey.atPath, Result.bind_eq_error_iff] at h
  rcases h with (hpath | ⟨steps, -, hkey⟩) | ⟨key, -, haddress | ⟨address, -, h⟩⟩
  · exact .inl hpath
  · exact .inr (.inl (ExtendedKey.eq_outOfRange_of_descend hkey))
  · exact .inr (.inr (Address.eq_invalidProgramLength_of_build haddress))
  · cases h

end

/-- A record that cannot be derived is not reported as missing. -/
theorem addressAt_ne_notFound (target : String) :
    w.addressAt chain index ≠ .error (.notFound target) := by
  intro h
  rcases error_cases_of_addressAt h with hpath | hkey | ⟨n, haddress⟩
  · obtain ⟨reason, hreason⟩ := Path.eq_invalidPath_of_children hpath
    cases hreason
  · cases hkey
  · cases haddress

/-- There is no address at an index that is as large as the numbers of hardened children. -/
theorem exists_error_of_hardenedOffset_le (h : hardenedOffset ≤ index) :
    ∃ e, w.addressAt chain index = .error e := by
  cases haddress : w.addressAt chain index with
  | error e => exact ⟨e, rfl⟩
  | ok r =>
    obtain ⟨key, hkey, -⟩ := (addressAt_eq_ok_iff w chain index r).mp haddress
    rw [ExtendedKey.atPath, Result.bind_eq_ok_iff] at hkey
    obtain ⟨steps, hsteps, -⟩ := hkey
    obtain ⟨⟨-, -, hindex⟩, -⟩ := (Path.children_eq_ok_iff _ _).mp hsteps
    exact absurd h (UInt32.not_le.mpr hindex)

end Wallet

end SeedWallet
