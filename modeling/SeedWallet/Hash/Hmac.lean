import SeedWallet.Hash.Sha256
import SeedWallet.Hash.Sha512

/-!
# Keyed hashes and key stretching

- `Hmac.Key H`: a key taken into a block hash, ready for any number of messages.
- `hmacSha256`, `hmacSha512`: the keyed hash of one message.
- `pbkdf2Sha512`: 64 bytes stretched out of a passphrase and a salt by repeating the keyed hash.
-/

namespace SeedWallet

/-- A key in use: the states of the inner and the outer hash after their first block, which holds
nothing but the key. -/
structure Hmac.Key (H : BlockHash) where
  inner : H.State
  outer : H.State

namespace Hmac

/-- A key filled up to a block with zeros; a key longer than a block is hashed first. -/
def keyBlock (H : BlockHash) (key : Bytes) : Bytes :=
  let k := if H.blockSize < key.length then H.hash key else key
  k ++ List.replicate (H.blockSize - k.length) 0

/-- Takes a key into the inner and the outer hash. -/
def key (H : BlockHash) (key : Bytes) : Key H where
  inner := H.compress H.start ((keyBlock H key).map (· ^^^ 0x36))
  outer := H.compress H.start ((keyBlock H key).map (· ^^^ 0x5c))

/-- The keyed hash of a message. -/
def Key.mac {H : BlockHash} (k : Key H) (m : Bytes) : Bytes :=
  H.finish k.outer H.blockSize (H.finish k.inner H.blockSize m)

end Hmac

/-- HMAC over SHA-256. -/
def hmacSha256 (key m : Bytes) : Bytes :=
  (Hmac.key Sha256 key).mac m

@[simp] theorem length_hmacSha256 (key m : Bytes) : (hmacSha256 key m).length = 32 :=
  Sha256.length_output _

/-- HMAC over SHA-512. -/
def hmacSha512 (key m : Bytes) : Bytes :=
  (Hmac.key Sha512 key).mac m

@[simp] theorem length_hmacSha512 (key m : Bytes) : (hmacSha512 key m).length = 64 :=
  Sha512.length_output _

/-- Hashes the last value again and takes it into the sum. -/
def stretchStep (mac : Bytes → Bytes) (last : Bytes × Bytes) : Bytes × Bytes :=
  let u := mac last.1
  (u, Bytes.xor last.2 u)

/-- PBKDF2 with HMAC-SHA-512 and one block of output: the exclusive or of `rounds` values, each the
keyed hash of the one before, the first that of the salt. -/
def pbkdf2Sha512 (passphrase salt : Bytes) (rounds : Nat) : Bytes :=
  let key := Hmac.key Sha512 passphrase
  let first := key.mac (salt ++ Bytes.ofNat 4 1)
  (Nat.repeat (stretchStep key.mac) (rounds - 1) (first, first)).2

@[simp] theorem length_pbkdf2Sha512 (passphrase salt : Bytes) (rounds : Nat) :
    (pbkdf2Sha512 passphrase salt rounds).length = 64 := by
  have keeps : ∀ n, (Nat.repeat (stretchStep (Hmac.key Sha512 passphrase).mac) n
      ((Hmac.key Sha512 passphrase).mac (salt ++ Bytes.ofNat 4 1),
        (Hmac.key Sha512 passphrase).mac (salt ++ Bytes.ofNat 4 1))).2.length = 64 := by
    intro n
    induction n with
    | zero => exact Sha512.length_output _
    | succ n ih =>
      rw [Nat.repeat, stretchStep, Bytes.length_xor, ih]
      exact Nat.min_eq_left (Nat.le_of_eq (Sha512.length_output _).symm)
  exact keeps _

end SeedWallet
