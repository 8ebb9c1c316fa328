import SeedWallet.Bytes
import SeedWallet.Curve.Modular

/-!
# The field of secp256k1

- `FieldElement`: the numbers below the field prime, with arithmetic modulo it.
- `FieldElement.sqrt?`: a square root, where there is one.
- `FieldElement.ofBytes?`, `FieldElement.bytes`: the 32-byte form; a number at or above the prime is
  refused.
-/

namespace SeedWallet

/-- The prime that coordinates are reduced by. -/
def fieldPrime : Nat := 2 ^ 256 - 2 ^ 32 - 977

instance : NeZero fieldPrime := ⟨by decide⟩

/-- A coordinate. -/
abbrev FieldElement := Fin fieldPrime

namespace FieldElement

/-- A square root. The prime is 3 modulo 4, so the power is a root whenever one exists, and squaring
it tells. -/
def sqrt? (a : FieldElement) : Option FieldElement :=
  let r := Modular.pow a ((fieldPrime + 1) / 4)
  if r * r = a then some r else none

/-- Whether the number is odd. -/
def isOdd (a : FieldElement) : Bool :=
  a.val % 2 = 1

/-- The 32 bytes of the number. -/
def bytes (a : FieldElement) : Bytes :=
  Bytes.ofNat 32 a.val

/-- The element whose bytes these are. -/
def ofBytes? (bs : Bytes) : Option FieldElement :=
  if h : Bytes.toNat bs < fieldPrime then some ⟨Bytes.toNat bs, h⟩ else none

@[simp] theorem length_bytes (a : FieldElement) : (bytes a).length = 32 :=
  Bytes.length_ofNat 32 a.val

theorem toNat_bytes (a : FieldElement) : Bytes.toNat (bytes a) = a.val := by
  rw [bytes, Bytes.toNat_ofNat]
  exact Nat.mod_eq_of_lt (Nat.lt_trans a.isLt (by decide))

/-- Reading the bytes of an element gives it back. -/
@[simp] theorem ofBytes?_bytes (a : FieldElement) : ofBytes? (bytes a) = some a := by
  simp only [ofBytes?, toNat_bytes]
  simp

/-- Only the bytes of an element are read as it. -/
theorem bytes_of_ofBytes? {bs : Bytes} {a : FieldElement} (hl : bs.length = 32)
    (h : ofBytes? bs = some a) : bytes a = bs := by
  unfold ofBytes? at h
  split at h
  · cases h
    rw [bytes, ← hl]
    exact Bytes.ofNat_toNat bs
  · cases h

end FieldElement

end SeedWallet
