import SeedWallet.Bits

/-!
# Byte strings

Everything that is hashed, signed, sealed or put into an address is a list of bytes.

- `Bytes.toNat`, `Bytes.ofNat w`: big-endian numbers; the two are inverse at a fixed width `w`.
- `Bytes.bits`, `Bytes.ofBits`: the binary digits of a byte string, eight to a byte.
- `Bytes.xor`: bytewise exclusive or, its own inverse on an equally long mask.
- `FixedBytes n`: a byte string that is known to have `n` bytes.
-/

namespace SeedWallet

/-- A byte string. -/
abbrev Bytes := List UInt8

/-- A byte string of `n` bytes. -/
abbrev FixedBytes (n : Nat) := { bs : Bytes // bs.length = n }

namespace Bytes

/-! ## Big-endian numbers -/

/-- The number whose base-256 digits are the bytes, the most significant first. -/
def toNat (bs : Bytes) : Nat :=
  bs.foldl (fun n b => 256 * n + b.toNat) 0

/-- The `w` lowest base-256 digits of `n`, the most significant first. -/
def ofNat : Nat → Nat → Bytes
  | 0, _ => []
  | w + 1, n => UInt8.ofNat (n / 256 ^ w) :: ofNat w n

@[simp] theorem length_ofNat (w n : Nat) : (ofNat w n).length = w := by
  induction w with
  | zero => rfl
  | succ w ih => simp [ofNat, ih]

/-- Digits already read weigh in above those that follow. -/
theorem foldl_eq (bs : Bytes) (n : Nat) :
    bs.foldl (fun n b => 256 * n + b.toNat) n = n * 256 ^ bs.length + toNat bs := by
  induction bs generalizing n with
  | nil => simp [toNat]
  | cons b bs ih =>
    simp only [toNat, List.foldl_cons, List.length_cons] at ih ⊢
    rw [ih, ih (256 * 0 + b.toNat), Nat.pow_succ]
    grind

@[simp] theorem toNat_nil : toNat [] = 0 := rfl

theorem toNat_cons (b : UInt8) (bs : Bytes) :
    toNat (b :: bs) = b.toNat * 256 ^ bs.length + toNat bs := by
  rw [toNat, List.foldl_cons, foldl_eq]; simp

/-- `w` bytes hold a number below `256 ^ w`. -/
theorem toNat_lt (bs : Bytes) : toNat bs < 256 ^ bs.length := by
  induction bs with
  | nil => simp
  | cons b bs ih =>
    rw [toNat_cons, List.length_cons, Nat.pow_succ, Nat.mul_comm (256 ^ bs.length)]
    have hb : b.toNat + 1 ≤ 256 := b.toNat_lt
    calc b.toNat * 256 ^ bs.length + toNat bs
        < b.toNat * 256 ^ bs.length + 256 ^ bs.length := by omega
      _ = (b.toNat + 1) * 256 ^ bs.length := by rw [Nat.succ_mul]
      _ ≤ 256 * 256 ^ bs.length := Nat.mul_le_mul_right _ hb

/-- Writing `n` in `w` bytes and reading it again gives `n` modulo `256 ^ w`. -/
theorem toNat_ofNat (w n : Nat) : toNat (ofNat w n) = n % 256 ^ w := by
  induction w with
  | zero => simp [ofNat, Nat.mod_one]
  | succ w ih =>
    rw [ofNat, toNat_cons, length_ofNat, ih, Nat.mod_pow_succ, Nat.add_comm, Nat.mul_comm]
    simp

/-- Only the lowest digits of a number are written. -/
theorem ofNat_congr {w n m : Nat} (h : n % 256 ^ w = m % 256 ^ w) : ofNat w n = ofNat w m := by
  induction w generalizing n m with
  | zero => rfl
  | succ w ih =>
    have hmod : ∀ k, k % 256 ^ (w + 1) % 256 ^ w = k % 256 ^ w := fun k =>
      Nat.mod_mod_of_dvd k ⟨256, by rw [Nat.pow_succ]⟩
    have hdiv : ∀ k, k / 256 ^ w % 256 = k % 256 ^ (w + 1) / 256 ^ w := fun k => by
      rw [Nat.pow_succ, Nat.mod_mul_right_div_self]
    have tail : ofNat w n = ofNat w m := ih (by rw [← hmod n, h, hmod m])
    rw [ofNat, ofNat, tail]
    congr 1
    apply UInt8.toNat_inj.mp
    rw [UInt8.toNat_ofNat', UInt8.toNat_ofNat', hdiv n, h, ← hdiv m]

/-- Reading `bs` and writing the number at the same width gives `bs` back. -/
theorem ofNat_toNat (bs : Bytes) : ofNat bs.length (toNat bs) = bs := by
  induction bs with
  | nil => rfl
  | cons b bs ih =>
    have hlt := toNat_lt bs
    rw [List.length_cons, ofNat, toNat_cons]
    congr 1
    · rw [Nat.mul_comm, Nat.mul_add_div (by exact Nat.pow_pos (by decide)),
        Nat.div_eq_of_lt hlt]
      simp
    · rw [ofNat_congr (m := toNat bs) (by simp), ih]

/-! ## Binary digits -/

/-- The binary digits of the bytes, eight to a byte. -/
def bits (bs : Bytes) : List Bool :=
  bs.flatMap fun b => Bits.ofNat 8 b.toNat

/-- The bytes that the digits fill completely. -/
def ofBits (ds : List Bool) : Bytes :=
  (fullGroups 8 ds).map fun g => UInt8.ofNat (Bits.toNat g)

@[simp] theorem length_bits (bs : Bytes) : (bits bs).length = 8 * bs.length := by
  induction bs with
  | nil => rfl
  | cons b bs ih => simp only [bits] at ih; simp [bits, ih]; omega

@[simp] theorem length_ofBits (ds : List Bool) : (ofBits ds).length = ds.length / 8 := by
  simp [ofBits, fullGroups]

theorem ofNat_bits_toNat (b : UInt8) : UInt8.ofNat (Bits.toNat (Bits.ofNat 8 b.toNat)) = b := by
  rw [Bits.toNat_ofNat, Nat.mod_eq_of_lt b.toNat_lt]; simp

/-- Up to seven further digits do not fill a byte and are left out. -/
theorem ofBits_bits_append (bs : Bytes) (rest : List Bool) (h : rest.length < 8) :
    ofBits (bits bs ++ rest) = bs := by
  have hlen : (bits bs ++ rest).length / 8 = (bs.map fun b => Bits.ofNat 8 b.toNat).length := by
    simp; omega
  rw [ofBits, fullGroups, hlen, bits, List.flatMap_def,
    groups_flatten 8 _ rest (by simp), List.map_map]
  exact (List.map_congr_left fun b _ => ofNat_bits_toNat b).trans (List.map_id _)

@[simp] theorem ofBits_bits (bs : Bytes) : ofBits (bits bs) = bs := by
  simpa using ofBits_bits_append bs [] (by simp)

/-- Spelling out the bytes that digits fill gives the digits back, up to the last full byte. -/
theorem bits_ofBits (ds : List Bool) : bits (ofBits ds) = ds.take (ds.length / 8 * 8) := by
  rw [bits, ofBits, List.flatMap_def, List.map_map, ← flatten_groups, fullGroups]
  congr 1
  refine (List.map_congr_left fun g hg => ?_).trans (List.map_id _)
  have hg8 : g.length = 8 := length_of_mem_groups (by omega) hg
  have hlt : Bits.toNat g < 256 := by have := Bits.toNat_lt g; rw [hg8] at this; exact this
  have := Bits.ofNat_toNat g
  rw [hg8] at this
  simp [Function.comp, UInt8.toNat_ofNat', Nat.mod_eq_of_lt hlt, this]

/-! ## Exclusive or -/

/-- Bytewise exclusive or, as long as the shorter of the two. -/
def xor (as bs : Bytes) : Bytes :=
  List.zipWith (· ^^^ ·) as bs

@[simp] theorem length_xor (as bs : Bytes) : (xor as bs).length = min as.length bs.length := by
  simp [xor]

/-- A mask that is long enough cancels itself. -/
theorem xor_xor_cancel (as mask : Bytes) (h : as.length ≤ mask.length) :
    xor (xor as mask) mask = as := by
  induction as generalizing mask with
  | nil => simp [xor]
  | cons a as ih =>
    cases mask with
    | nil => simp at h
    | cons m mask =>
      have := ih mask (by simpa using h)
      simp only [xor] at this
      simp only [xor, List.zipWith_cons_cons, UInt8.xor_assoc, UInt8.xor_self, UInt8.xor_zero, this]

end Bytes

end SeedWallet
