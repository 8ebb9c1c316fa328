import Mathlib.Data.List.Range
import SeedWallet.Proofs.AddressRecords

/-!
# Searching for an address

A search looks at the places of a wallet, the pairs of an index below the limit and a chain, in one
order, and stops at the first one that has the address or has none at all. The order is written down as
a list of places here, the search as a walk along that list, and everything that is said about the
search is said about beginnings of the list.

- `Wallet.places`: the places below a limit in the order of the search.
- `Wallet.recordAt`: the record of a place.
- `Wallet.Passes`: a place that a search goes past.
- `Wallet.scan`, `Wallet.find_eq_scan`: the walk along a list of places, which the search is.
- `Wallet.find_first`: what is found, and what fails.
-/

namespace SeedWallet.Wallet

/-- An index and one of its two chains. -/
abbrev Place := UInt32 × Chain

/-- A place with a smaller index, or the chain for payments at the index of the chain for change. -/
def Earlier (q p : Place) : Prop :=
  q.1 < p.1 ∨ q.1 = p.1 ∧ q.2 = .receive ∧ p.2 = .change

/-- The places of some consecutive indices, for each index the chain for payments first. -/
def placesFrom (index count : Nat) : List Place :=
  (List.range' index count).flatMap fun i => [(UInt32.ofNat i, .receive), (UInt32.ofNat i, .change)]

/-- The places below a limit in the order of the search. -/
def places (limit : UInt32) : List Place :=
  placesFrom 0 limit.toNat

/-- The record of a place. -/
def recordAt (w : Wallet) : Place → Result AddressRecord
  | (index, .receive) => w.receive index
  | (index, .change) => w.change index

/-- A search for the address goes past the place: there is a record, of another address. -/
def Passes (w : Wallet) (target : String) (p : Place) : Prop :=
  ∃ r, w.recordAt p = .ok r ∧ r.address ≠ target

theorem recordAt_eq (w : Wallet) (p : Place) : w.recordAt p = w.addressAt p.2 p.1 := by
  obtain ⟨index, chain⟩ := p
  cases chain <;> rfl

/-! ## The places -/

theorem placesFrom_succ (index count : Nat) :
    placesFrom index (count + 1) =
      (UInt32.ofNat index, .receive) :: (UInt32.ofNat index, .change) ::
        placesFrom (index + 1) count := by
  rw [placesFrom, List.range'_succ, List.flatMap_cons]
  rfl

theorem placesFrom_add (index m n : Nat) :
    placesFrom index (m + n) = placesFrom index m ++ placesFrom (index + m) n := by
  rw [placesFrom, ← List.range'_append_1, List.flatMap_append]
  rfl

/-- As long as the indices are 32-bit numbers, they are those of the places. -/
theorem mem_placesFrom_iff {index count : Nat} (h : index + count ≤ 2 ^ 32) (p : Place) :
    p ∈ placesFrom index count ↔ index ≤ p.1.toNat ∧ p.1.toNat < index + count := by
  obtain ⟨i, chain⟩ := p
  have hmem : (i, chain) ∈ placesFrom index count ↔
      ∃ n, (index ≤ n ∧ n < index + count) ∧ i = UInt32.ofNat n := by
    simp only [placesFrom, List.mem_flatMap, List.mem_range'_1, List.mem_cons, Prod.mk.injEq,
      List.not_mem_nil, or_false]
    cases chain <;> simp
  rw [hmem]
  constructor
  · rintro ⟨n, hn, rfl⟩
    rwa [UInt32.toNat_ofNat', Nat.mod_eq_of_lt (by omega)]
  · intro hi
    exact ⟨i.toNat, hi, UInt32.ofNat_toNat.symm⟩

/-- A place is below the limit exactly if its index is. -/
theorem mem_places_iff (limit : UInt32) (p : Place) : p ∈ places limit ↔ p.1 < limit := by
  have hlimit : 0 + limit.toNat ≤ 2 ^ 32 := by
    have := limit.toNat_lt
    omega
  rw [places, mem_placesFrom_iff hlimit, UInt32.lt_iff_toNat_lt]
  omega

/-- Each place comes before those that are later. -/
theorem pairwise_placesFrom {index count : Nat} (h : index + count ≤ 2 ^ 32) :
    (placesFrom index count).Pairwise Earlier := by
  induction count generalizing index with
  | zero => exact List.Pairwise.nil
  | succ count ih =>
    have hrest : index + 1 + count ≤ 2 ^ 32 := by omega
    have hlater : ∀ p ∈ placesFrom (index + 1) count, UInt32.ofNat index < p.1 := by
      intro p hp
      rw [mem_placesFrom_iff hrest] at hp
      rw [UInt32.lt_iff_toNat_lt, UInt32.toNat_ofNat', Nat.mod_eq_of_lt (by omega)]
      omega
    rw [placesFrom_succ]
    refine List.Pairwise.cons (fun p hp => ?_) (List.Pairwise.cons (fun p hp => ?_) (ih hrest))
    · rcases List.mem_cons.mp hp with rfl | hp
      · exact .inr ⟨rfl, rfl, rfl⟩
      · exact .inl (hlater p hp)
    · exact .inl (hlater p hp)

theorem pairwise_places (limit : UInt32) : (places limit).Pairwise Earlier := by
  apply pairwise_placesFrom
  have := limit.toNat_lt
  omega

/-- What stands in front of a place is earlier. -/
theorem earlier_of_places_eq {limit : UInt32} {front back : List Place} {p : Place}
    (h : places limit = front ++ p :: back) : ∀ q ∈ front, Earlier q p := by
  have hpairwise := pairwise_places limit
  rw [h, List.pairwise_append] at hpairwise
  intro q hq
  exact hpairwise.2.2 q hq p (by simp)

/-- The places below a limit are the first ones of those below a larger limit. -/
theorem exists_places_eq_append {limit limit' : UInt32} (h : limit ≤ limit') :
    ∃ more, places limit' = places limit ++ more := by
  rw [UInt32.le_iff_toNat_le] at h
  refine ⟨placesFrom (0 + limit.toNat) (limit'.toNat - limit.toNat), ?_⟩
  rw [places, places, ← placesFrom_add, Nat.add_sub_cancel' h]

/-! ## The walk -/

/-- A walk along places in search of an address. -/
def scan (w : Wallet) (target : String) : List Place → Result AddressRecord
  | [] => .error (.notFound target)
  | p :: ps => do
    let r ← w.recordAt p
    if r.address = target then return r else w.scan target ps

/-- A search is the walk along the places below its limit. -/
theorem findFrom_eq_scan (w : Wallet) (target : String) (count index : Nat) :
    w.findFrom target count index = w.scan target (placesFrom index count) := by
  induction count generalizing index with
  | zero => rfl
  | succ count ih =>
    rw [placesFrom_succ, findFrom, scan, scan, findAt, ← ih, recordAt, recordAt]
    cases w.receive (UInt32.ofNat index) with
    | error e => rfl
    | ok received =>
      by_cases hreceived : received.address = target
      · simp [hreceived, pure_bind]
      · cases w.change (UInt32.ofNat index) with
        | error e => simp [hreceived]
        | ok changed =>
          by_cases hchanged : changed.address = target
          · simp [hreceived, hchanged]
          · simp [hreceived, hchanged]

/-- A search is the walk along the places below its limit. -/
theorem find_eq_scan (w : Wallet) (target : String) (limit : UInt32) :
    w.find target limit = w.scan target (places limit) :=
  findFrom_eq_scan w target limit.toNat 0

section

variable {w : Wallet} {target : String} {front back : List Place} {p : Place}

/-- The walk goes past a beginning of places that pass. -/
theorem scan_append (h : ∀ q ∈ front, w.Passes target q) (ps : List Place) :
    w.scan target (front ++ ps) = w.scan target ps := by
  induction front with
  | nil => rfl
  | cons q front ih =>
    obtain ⟨r, hr, hne⟩ := h q (by simp)
    rw [List.cons_append, scan, hr, Result.ok_bind, if_neg hne]
    exact ih fun x hx => h x (by simp [hx])

/-- The walk ends at a place that does not pass, with the record or the failure of the place. -/
theorem scan_of_not_passes (hp : ¬ w.Passes target p) :
    w.scan target (p :: back) = w.recordAt p := by
  rw [scan]
  cases hrecord : w.recordAt p with
  | error e => rfl
  | ok r =>
    have haddress : r.address = target := by
      by_contra hne
      exact hp ⟨r, hrecord, hne⟩
    rw [Result.ok_bind, if_pos haddress]
    rfl

/-- The first place that does not pass decides about the search. -/
theorem find_eq_recordAt {limit : UInt32} (h : places limit = front ++ p :: back)
    (hfront : ∀ q ∈ front, w.Passes target q) (hp : ¬ w.Passes target p) :
    w.find target limit = w.recordAt p := by
  rw [find_eq_scan, h, scan_append hfront, scan_of_not_passes hp]

/-- A search that goes past all places finds nothing. -/
theorem find_eq_notFound {limit : UInt32} (h : ∀ q ∈ places limit, w.Passes target q) :
    w.find target limit = .error (.notFound target) := by
  have hscan := scan_append h []
  rwa [List.append_nil, ← find_eq_scan] at hscan

theorem not_passes_of_address {m : AddressRecord} (hp : w.recordAt p = .ok m)
    (hm : m.address = target) : ¬ w.Passes target p := by
  rintro ⟨r, hr, hne⟩
  rw [hp] at hr
  cases hr
  exact hne hm

theorem not_passes_of_error {e : WalletError} (hp : w.recordAt p = .error e) :
    ¬ w.Passes target p := by
  rintro ⟨r, hr, -⟩
  rw [hp] at hr
  cases hr

end

/-- Of any places, either all pass or there is a first one that does not. -/
theorem passes_or_first (w : Wallet) (target : String) (ps : List Place) :
    (∀ p ∈ ps, w.Passes target p) ∨
      ∃ front p back, ps = front ++ p :: back ∧ (∀ q ∈ front, w.Passes target q) ∧
        ¬ w.Passes target p := by
  induction ps with
  | nil => exact .inl (by simp)
  | cons p ps ih =>
    by_cases hp : w.Passes target p
    · rcases ih with hall | ⟨front, q, back, rfl, hfront, hq⟩
      · exact .inl (List.forall_mem_cons.mpr ⟨hp, hall⟩)
      · exact .inr ⟨p :: front, q, back, rfl, List.forall_mem_cons.mpr ⟨hp, hfront⟩, hq⟩
    · exact .inr ⟨[], p, ps, rfl, by simp, hp⟩

/-- The record of a place is never missing. -/
theorem recordAt_ne_notFound (w : Wallet) (target : String) (p : Place) :
    w.recordAt p ≠ .error (.notFound target) := by
  rw [recordAt_eq]
  exact addressAt_ne_notFound w p.2 p.1 target

/-! ## The search -/

/-- What is found is the record of the first place that does not pass. -/
theorem find_eq_ok_iff (w : Wallet) (target : String) (limit : UInt32) (m : AddressRecord) :
    w.find target limit = .ok m ↔
      ∃ front p back, places limit = front ++ p :: back ∧ (∀ q ∈ front, w.Passes target q) ∧
        w.recordAt p = .ok m ∧ m.address = target := by
  constructor
  · intro h
    rcases passes_or_first w target (places limit) with hall | ⟨front, p, back, hplaces, hfront, hp⟩
    · rw [find_eq_notFound hall] at h
      cases h
    · rw [find_eq_recordAt hplaces hfront hp] at h
      refine ⟨front, p, back, hplaces, hfront, h, ?_⟩
      by_contra hne
      exact hp ⟨m, h, hne⟩
  · rintro ⟨front, p, back, hplaces, hfront, hp, hm⟩
    rw [find_eq_recordAt hplaces hfront (not_passes_of_address hp hm), hp]

/-- A search that finds nothing has gone past all places. -/
theorem find_eq_notFound_iff (w : Wallet) (target : String) (limit : UInt32) :
    w.find target limit = .error (.notFound target) ↔ ∀ p ∈ places limit, w.Passes target p := by
  constructor
  · intro h
    rcases passes_or_first w target (places limit) with hall | ⟨front, p, back, hplaces, hfront, hp⟩
    · exact hall
    · rw [find_eq_recordAt hplaces hfront hp] at h
      exact absurd h (recordAt_ne_notFound w target p)
  · exact find_eq_notFound

/-- Any other failure is that of the first place that does not pass. -/
theorem find_eq_error_iff (w : Wallet) (target : String) (limit : UInt32) (e : WalletError) :
    w.find target limit = .error e ∧ e ≠ .notFound target ↔
      ∃ front p back, places limit = front ++ p :: back ∧ (∀ q ∈ front, w.Passes target q) ∧
        w.recordAt p = .error e := by
  constructor
  · rintro ⟨h, hne⟩
    rcases passes_or_first w target (places limit) with hall | ⟨front, p, back, hplaces, hfront, hp⟩
    · rw [find_eq_notFound hall] at h
      exact absurd (Except.error.inj h).symm hne
    · rw [find_eq_recordAt hplaces hfront hp] at h
      exact ⟨front, p, back, hplaces, hfront, h⟩
  · rintro ⟨front, p, back, hplaces, hfront, hp⟩
    refine ⟨by rw [find_eq_recordAt hplaces hfront (not_passes_of_error hp), hp], ?_⟩
    rintro rfl
    exact recordAt_ne_notFound w target p hp

/-- What is found below a limit is found below any larger one. -/
theorem find_eq_ok_of_le {w : Wallet} {target : String} {limit limit' : UInt32} {m : AddressRecord}
    (h : w.find target limit = .ok m) (hle : limit ≤ limit') : w.find target limit' = .ok m := by
  obtain ⟨front, p, back, hplaces, hfront, hp, hm⟩ := (find_eq_ok_iff w target limit m).mp h
  obtain ⟨more, hmore⟩ := exists_places_eq_append hle
  refine (find_eq_ok_iff w target limit' m).mpr ⟨front, p, back ++ more, ?_, hfront, hp, hm⟩
  rw [hmore, hplaces, List.append_assoc, List.cons_append]

/-- Beyond the indices that can be derived a search does not end without a find or a failure. -/
theorem find_ne_notFound_of_lt (w : Wallet) (target : String) {limit : UInt32}
    (h : hardenedOffset < limit) : w.find target limit ≠ .error (.notFound target) := by
  intro hnone
  obtain ⟨r, hr, -⟩ := (find_eq_notFound_iff w target limit).mp hnone (hardenedOffset, .receive)
    ((mem_places_iff _ _).mpr h)
  obtain ⟨e, he⟩ := exists_error_of_hardenedOffset_le w .receive hardenedOffset (UInt32.le_refl _)
  have hrecord : w.recordAt (hardenedOffset, .receive) = .error e := he
  rw [hr] at hrecord
  cases hrecord

/-- A search for the address of a place ends there or earlier, at a place that has the same address or
fails. -/
theorem find_ends {w : Wallet} {limit : UInt32} {p : Place} {r : AddressRecord} (hlimit : p.1 < limit)
    (hp : w.recordAt p = .ok r) :
    ∃ q, (q = p ∨ Earlier q p) ∧ w.find r.address limit = w.recordAt q ∧
      ∀ m, w.recordAt q = .ok m → m.address = r.address := by
  obtain ⟨front, back, hplaces⟩ := List.append_of_mem ((mem_places_iff limit p).mpr hlimit)
  rcases passes_or_first w r.address front with hall | ⟨front', q, back', rfl, hfront, hq⟩
  · refine ⟨p, .inl rfl, find_eq_recordAt hplaces hall (not_passes_of_address hp rfl), fun m hm => ?_⟩
    cases hp.symm.trans hm
    rfl
  · have hqp : Earlier q p := earlier_of_places_eq hplaces q (by simp)
    rw [List.append_assoc, List.cons_append] at hplaces
    refine ⟨q, .inr hqp, find_eq_recordAt hplaces hfront hq, fun m hm => ?_⟩
    -- a place that does not pass and has a record has the address
    by_contra hne
    exact hq ⟨m, hm, hne⟩

/-- The address of a place is found, at that place or an earlier one with the same address. -/
theorem exists_find_recordAt {w : Wallet} {limit : UInt32} {p : Place} {r : AddressRecord}
    (hlimit : p.1 < limit) (hearlier : ∀ q, Earlier q p → ∃ s, w.recordAt q = .ok s)
    (hp : w.recordAt p = .ok r) :
    ∃ q m, (q = p ∨ Earlier q p) ∧ w.recordAt q = .ok m ∧ m.address = r.address ∧
      w.find r.address limit = .ok m := by
  obtain ⟨q, hqp, hfind, haddress⟩ := find_ends hlimit hp
  obtain ⟨m, hm⟩ : ∃ m, w.recordAt q = .ok m := by
    rcases hqp with rfl | hqp
    · exact ⟨r, hp⟩
    · exact hearlier q hqp
  exact ⟨q, m, hqp, hm, haddress m hm, hfind.trans hm⟩

/-- **A search finds the first place that has the address.** The places below the limit are looked at
from the smallest index on, the chain for payments before that for change; the search has the record of
the first place with the address, the failure of a place without a record that comes before, or finds
nothing after a record of another address at every place. So what is found does not depend on a larger
limit, a search beyond the last index that can be derived does not find nothing, and where all earlier
places have records the address of a place is found there or earlier. -/
theorem find_first (w : Wallet) (target : String) (limit : UInt32) :
    ((∀ p, p ∈ places limit ↔ p.1 < limit) ∧ (places limit).Pairwise Earlier) ∧
    (∀ m, w.find target limit = .ok m ↔
      ∃ front p back, places limit = front ++ p :: back ∧ (∀ q ∈ front, w.Passes target q) ∧
        w.recordAt p = .ok m ∧ m.address = target) ∧
    (∀ e, w.find target limit = .error e ∧ e ≠ .notFound target ↔
      ∃ front p back, places limit = front ++ p :: back ∧ (∀ q ∈ front, w.Passes target q) ∧
        w.recordAt p = .error e) ∧
    (w.find target limit = .error (.notFound target) ↔ ∀ p ∈ places limit, w.Passes target p) ∧
    (∀ m limit', w.find target limit = .ok m → limit ≤ limit' → w.find target limit' = .ok m) ∧
    (hardenedOffset < limit → w.find target limit ≠ .error (.notFound target)) ∧
    (∀ p r, p.1 < limit → (∀ q, Earlier q p → ∃ s, w.recordAt q = .ok s) → w.recordAt p = .ok r →
      ∃ q m, (q = p ∨ Earlier q p) ∧ w.recordAt q = .ok m ∧ m.address = r.address ∧
        w.find r.address limit = .ok m) :=
  ⟨⟨mem_places_iff limit, pairwise_places limit⟩, find_eq_ok_iff w target limit,
    find_eq_error_iff w target limit, find_eq_notFound_iff w target limit,
    fun _ _ => find_eq_ok_of_le, find_ne_notFound_of_lt w target, fun _ _ => exists_find_recordAt⟩

end SeedWallet.Wallet
