import Mathlib.Data.List.Induction
import Mathlib.Data.List.TakeWhile
import SeedWallet.Bytes
import SeedWallet.Digits

/-!
# Positional notation is unique

A number has one spelling in each base that does not begin with a zero, so re-spelling digits in
another base loses nothing, provided that leading zeros, which the number does not show, are carried
over one by one.

- `Digits.ofNat_toNat`: digits below the base that do not begin with a zero are the digits of the
  number they spell (the converse of `Digits.toNat_ofNat`).
- `Digits.rebase b b' ds`: the digits `ds` of base `b` in base `b'`, leading zeros kept.
- `Digits.rebase_rebase`: re-spelling and spelling back is the identity.
- `Digits.length_rebase_le`: a bound on the length, from how the powers of the two bases compare.
- `Digits.map_ofNat_ofNat_toNat`: bytes that do not begin with a zero are the digits of their number.
-/

namespace SeedWallet.Digits

/-! ## Numbers and their digits -/

/-- Leading zeros do not count. -/
theorem toNat_append_of_zeros (b : Nat) {zs : List Nat} (h : ∀ z ∈ zs, z = 0) (ds : List Nat) :
    toNat b (zs ++ ds) = toNat b ds := by
  induction zs with
  | nil => rfl
  | cons z zs ih =>
    have hz : z = 0 := h z (by simp)
    have ih' := ih fun x hx => h x (by simp [hx])
    subst hz
    simpa [toNat] using ih'

/-- The digits of a number do not begin with a zero. -/
theorem head?_ofNat_ne_zero {b : Nat} (hb : 1 < b) (n : Nat) : (ofNat b n).head? ≠ some 0 := by
  induction n using Nat.strongRecOn with
  | ind n ih =>
    rcases Nat.eq_zero_or_pos n with rfl | hn
    · simp
    · rw [ofNat_of_pos hb hn, List.head?_append]
      by_cases hq : n / b = 0
      · -- a single digit, which is the number itself
        have hlt : n < b := by
          by_contra hge
          have := Nat.div_pos (Nat.le_of_not_lt hge) (by omega)
          omega
        rw [hq, ofNat_zero, Nat.mod_eq_of_lt hlt]
        simp
        omega
      · have hhead := ih (n / b) (Nat.div_lt_self hn hb)
        rw [ofNat_of_pos hb (Nat.pos_of_ne_zero hq)] at hhead ⊢
        cases hc : (ofNat b (n / b / b) ++ [n / b % b]).head? with
        | none => simp at hc
        | some d =>
          rw [hc] at hhead
          simpa using hhead

/-- Digits below the base that do not begin with a zero are those of the number they spell. -/
theorem ofNat_toNat {b : Nat} {ds : List Nat} (hlt : ∀ d ∈ ds, d < b)
    (hhead : ds.head? ≠ some 0) : ofNat b (toNat b ds) = ds := by
  induction ds using List.reverseRecOn with
  | nil => rfl
  | append_singleton ds d ih =>
    have hd : d < b := hlt d (by simp)
    rw [toNat_concat]
    cases ds with
    | nil =>
      have hpos : 0 < d := by
        have : d ≠ 0 := by simpa using hhead
        omega
      have h0 : toNat b [] = 0 := rfl
      rw [h0, Nat.mul_zero, Nat.zero_add, ofNat_of_pos (by omega) hpos, Nat.div_eq_of_lt hd,
        Nat.mod_eq_of_lt hd, ofNat_zero]
    | cons c cs =>
      have hc : c < b := hlt c (by simp)
      have hc0 : c ≠ 0 := by simpa using hhead
      have ih' := ih (fun x hx => hlt x (List.mem_append_left _ hx)) (by simpa using hhead)
      -- were the number without its last digit zero, there would be no digits before it
      have hpos : 0 < toNat b (c :: cs) := by
        refine Nat.pos_of_ne_zero fun h => ?_
        rw [h, ofNat_zero] at ih'
        cases ih'
      have hpos' : 0 < b * toNat b (c :: cs) + d :=
        Nat.add_pos_left (Nat.mul_pos (by omega) hpos) d
      rw [ofNat_of_pos (by omega) hpos', Nat.mul_add_div (by omega), Nat.div_eq_of_lt hd,
        Nat.add_zero, ih', Nat.mul_add_mod, Nat.mod_eq_of_lt hd]

/-- A number below the `k`th power of the base has at most `k` digits. -/
theorem length_ofNat_le {b : Nat} (hb : 1 < b) {n k : Nat} (h : n < b ^ k) :
    (ofNat b n).length ≤ k := by
  induction k generalizing n with
  | zero =>
    obtain rfl : n = 0 := by simpa using h
    simp
  | succ k ih =>
    rcases Nat.eq_zero_or_pos n with rfl | hn
    · simp
    · rw [ofNat_of_pos hb hn, List.length_append, List.length_singleton]
      have := ih (Nat.div_lt_of_lt_mul (by rwa [Nat.pow_succ, Nat.mul_comm] at h))
      omega

/-- Digits below the base spell a number below its power. -/
theorem toNat_lt {b : Nat} {ds : List Nat} (hlt : ∀ d ∈ ds, d < b) :
    toNat b ds < b ^ ds.length := by
  induction ds using List.reverseRecOn with
  | nil => simp [toNat]
  | append_singleton ds d ih =>
    have hd : d < b := hlt d (by simp)
    have ih' : toNat b ds < b ^ ds.length := ih fun x hx => hlt x (List.mem_append_left _ hx)
    rw [toNat_concat, List.length_append, List.length_singleton, Nat.pow_succ]
    calc b * toNat b ds + d < b * toNat b ds + b := by omega
      _ = (toNat b ds + 1) * b := by rw [Nat.succ_mul, Nat.mul_comm]
      _ ≤ b ^ ds.length * b := Nat.mul_le_mul_right b ih'

/-! ## Another base -/

/-- The digits of base `b` in base `b'`. Leading zeros are kept as they are. -/
def rebase (b b' : Nat) (ds : List Nat) : List Nat :=
  ds.takeWhile (· == 0) ++ ofNat b' (toNat b ds)

theorem eq_zero_of_mem_takeWhile {ds : List Nat} {d : Nat} (h : d ∈ ds.takeWhile (· == 0)) :
    d = 0 := by
  simpa using List.mem_takeWhile_imp h

theorem head?_dropWhile_ne_zero (ds : List Nat) : (ds.dropWhile (· == 0)).head? ≠ some 0 := by
  intro h
  have := List.head?_dropWhile_not (· == 0) ds
  rw [h] at this
  simp at this

/-- Leading zeros are not part of the number. -/
theorem toNat_dropWhile (b : Nat) (ds : List Nat) :
    toNat b (ds.dropWhile (· == 0)) = toNat b ds := by
  conv => rhs; rw [← List.takeWhile_append_dropWhile (p := (· == 0)) (l := ds)]
  rw [toNat_append_of_zeros b fun z hz => eq_zero_of_mem_takeWhile hz]

/-- Zeros in front of digits that do not begin with one are exactly the leading zeros. -/
theorem takeWhile_zeros_append {zs ds : List Nat} (hz : ∀ z ∈ zs, z = 0)
    (hd : ds.head? ≠ some 0) : (zs ++ ds).takeWhile (· == 0) = zs := by
  rw [List.takeWhile_append_of_pos fun z h => by simp [hz z h]]
  cases ds with
  | nil => simp
  | cons d ds =>
    have : d ≠ 0 := by simpa using hd
    simp [this]

/-- Further zeros in front stay in front. -/
theorem rebase_replicate_append (b b' k : Nat) (ds : List Nat) :
    rebase b b' (List.replicate k 0 ++ ds) = List.replicate k 0 ++ rebase b b' ds := by
  have hz : ∀ z ∈ List.replicate k 0, z = 0 := fun z h => List.eq_of_mem_replicate h
  rw [rebase, toNat_append_of_zeros b hz,
    List.takeWhile_append_of_pos fun z h => by simp [hz z h], List.append_assoc, rebase]

/-- Digits of the new base come out. -/
theorem lt_of_mem_rebase {b b' : Nat} (hb' : 1 < b') {ds : List Nat} {d : Nat}
    (h : d ∈ rebase b b' ds) : d < b' := by
  rcases List.mem_append.mp h with h | h
  · have := eq_zero_of_mem_takeWhile h
    omega
  · exact lt_of_mem_ofNat hb' h

/-- Spelling digits in another base and back gives them back, leading zeros included. -/
theorem rebase_rebase {b b' : Nat} (hb' : 1 < b') {ds : List Nat} (hlt : ∀ d ∈ ds, d < b) :
    rebase b' b (rebase b b' ds) = ds := by
  have hz : ∀ z ∈ ds.takeWhile (· == 0), z = 0 := fun z h => eq_zero_of_mem_takeWhile h
  have hnum : toNat b' (rebase b b' ds) = toNat b (ds.dropWhile (· == 0)) := by
    rw [rebase, toNat_append_of_zeros b' hz, toNat_ofNat hb', toNat_dropWhile]
  have hrest : ofNat b (toNat b (ds.dropWhile (· == 0))) = ds.dropWhile (· == 0) :=
    ofNat_toNat (fun d h => hlt d (List.dropWhile_suffix _ |>.subset h))
      (head?_dropWhile_ne_zero ds)
  rw [rebase, hnum, hrest, rebase, takeWhile_zeros_append hz (head?_ofNat_ne_zero hb' _),
    List.takeWhile_append_dropWhile]

/-- When `j` digits of the first base are never worth more than `m` of the second one, and a digit
of the first never takes less room than one of the second does, `j` digits become at most `m`. -/
theorem length_rebase_le {b b' : Nat} (hb' : 1 < b') {ds : List Nat} (hlt : ∀ d ∈ ds, d < b)
    {m : Nat} (h : ∀ k ≤ ds.length, b ^ (ds.length - k) ≤ b' ^ (m - k)) (hm : ds.length ≤ m) :
    (rebase b b' ds).length ≤ m := by
  have hlen : (ds.takeWhile (· == 0)).length + (ds.dropWhile (· == 0)).length = ds.length := by
    rw [← List.length_append, List.takeWhile_append_dropWhile]
  -- the number is as small as the digits after the leading zeros make it
  have hnum : toNat b ds < b ^ (ds.length - (ds.takeWhile (· == 0)).length) := by
    rw [← toNat_dropWhile, show ds.length - (ds.takeWhile (· == 0)).length
      = (ds.dropWhile (· == 0)).length from by omega]
    exact toNat_lt fun d h => hlt d (List.dropWhile_suffix _ |>.subset h)
  have hdigits := length_ofNat_le hb'
    (Nat.lt_of_lt_of_le hnum (h (ds.takeWhile (· == 0)).length (by omega)))
  rw [rebase, List.length_append]
  omega

/-! ## Bytes as digits -/

/-- The values of the bytes are the digits of their number. -/
theorem toNat_map_toNat (bs : Bytes) : toNat 256 (bs.map UInt8.toNat) = Bytes.toNat bs := by
  rw [toNat, List.foldl_map, Bytes.toNat]

theorem map_toNat_map_ofNat {ds : List Nat} (h : ∀ d ∈ ds, d < 256) :
    (ds.map UInt8.ofNat).map UInt8.toNat = ds := by
  rw [List.map_map]
  refine (List.map_congr_left fun d hd => ?_).trans (List.map_id ds)
  exact UInt8.toNat_ofNat_of_lt (h d hd)

theorem lt_of_mem_map_toNat {bs : Bytes} : ∀ d ∈ bs.map UInt8.toNat, d < 256 := by
  intro d hd
  obtain ⟨b, -, rfl⟩ := List.mem_map.mp hd
  exact b.toNat_lt

/-- The digits of a number, as bytes, spell it. -/
theorem toNat_map_ofNat_ofNat (n : Nat) : Bytes.toNat ((ofNat 256 n).map UInt8.ofNat) = n := by
  rw [← toNat_map_toNat, map_toNat_map_ofNat fun d => lt_of_mem_ofNat (by decide),
    toNat_ofNat (by decide)]

/-- Bytes that do not begin with a zero are the digits of their number. -/
theorem map_ofNat_ofNat_toNat {bs : Bytes} (h : bs.head? ≠ some 0) :
    (ofNat 256 (Bytes.toNat bs)).map UInt8.ofNat = bs := by
  have hhead : (bs.map UInt8.toNat).head? ≠ some 0 := by
    cases bs with
    | nil => simp
    | cons b bs => simpa [← UInt8.toNat_inj] using h
  rw [← toNat_map_toNat, ofNat_toNat lt_of_mem_map_toNat hhead, List.map_map]
  exact (List.map_congr_left fun b _ => UInt8.ofNat_toNat).trans (List.map_id bs)

end SeedWallet.Digits
