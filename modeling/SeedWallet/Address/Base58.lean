import SeedWallet.Bytes
import SeedWallet.Digits

/-!
# Base 58

Bytes are written as a number in base 58, with digits that are not easily mistaken for each other. The
number does not show leading zero bytes, so each of them is written as a leading digit of its own.

- `Base58.encode`: the digits of a byte string.
- `Base58.decode?`: the bytes that digits spell, unless a character is no digit.
-/

namespace SeedWallet.Base58

/-- The digits from 0 to 57. -/
def alphabet : List Char :=
  ['1', '2', '3', '4', '5', '6', '7', '8', '9', 'A', 'B', 'C', 'D', 'E', 'F', 'G', 'H', 'J', 'K',
   'L', 'M', 'N', 'P', 'Q', 'R', 'S', 'T', 'U', 'V', 'W', 'X', 'Y', 'Z', 'a', 'b', 'c', 'd', 'e',
   'f', 'g', 'h', 'i', 'j', 'k', 'm', 'n', 'o', 'p', 'q', 'r', 's', 't', 'u', 'v', 'w', 'x', 'y',
   'z']

/-- The digit of a value. -/
def digit (n : Nat) : Char :=
  alphabet.getD n '1'

/-- The value of a digit. -/
def value? (c : Char) : Option Nat :=
  alphabet.idxOf? c

/-- A digit has its own value. -/
theorem value?_digit {n : Nat} (h : n < 58) : value? (digit n) = some n := by
  have all : ∀ m : Fin 58, value? (digit m) = some m.val := by decide
  exact all ⟨n, h⟩

/-- The digits of the bytes. -/
def encode (bs : Bytes) : List Char :=
  (bs.takeWhile (· == 0)).map (fun _ => '1') ++ (Digits.ofNat 58 (Bytes.toNat bs)).map digit

/-- The bytes that the digits spell. -/
def decode? (cs : List Char) : Option Bytes :=
  (cs.mapM value?).map fun ds =>
    (ds.takeWhile (· == 0)).map (fun _ => 0) ++
      (Digits.ofNat 256 (Digits.toNat 58 ds)).map UInt8.ofNat

end SeedWallet.Base58
