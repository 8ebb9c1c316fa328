import SeedWallet.Text.Utf8

/-!
# Hexadecimal text

Bytes are written with two lower-case digits each; either case is read.

- `Hex.encode`: the digits of a byte string.
- `Hex.decode?`: the bytes of a text of digits, or the reason why there are none.
- `Hex.Fault`: an odd number of digits, or the first character that is no digit. Text is looked at
  as UTF-8 bytes, so the second names a byte and its position.
-/

namespace SeedWallet.Hex

/-- Why a text is not the hexadecimal form of bytes. -/
inductive Fault where
  /-- The text has an odd number of bytes. -/
  | oddLength
  /-- The byte at the position is no digit. -/
  | badDigit (byte : UInt8) (position : Nat)
  deriving DecidableEq, Repr

/-- The lower-case digit of a number below sixteen. -/
def digit (n : Nat) : Char :=
  if n < 10 then Char.ofNat (48 + n) else Char.ofNat (87 + n)

/-- The value of the digit with the code `n`, in either case. -/
def value? (n : Nat) : Option Nat :=
  if 48 ≤ n ∧ n ≤ 57 then some (n - 48)
  else if 97 ≤ n ∧ n ≤ 102 then some (n - 87)
  else if 65 ≤ n ∧ n ≤ 70 then some (n - 55)
  else none

/-- The two digits of a byte. -/
def encodeByte (b : UInt8) : List Char :=
  [digit (b.toNat / 16), digit (b.toNat % 16)]

/-- The digits of a byte string. -/
def encode (bs : Bytes) : String :=
  String.ofList (bs.flatMap encodeByte)

/-- A digit has its own value. -/
theorem value?_digit {n : Nat} (h : n < 16) : value? (digit n).toNat = some n := by
  have all : ∀ m : Fin 16, value? (digit m).toNat = some m.val := by decide
  exact all ⟨n, h⟩

/-- Reads pairs of digits, the first of which stands at `position`. -/
def decodePairs (position : Nat) : Bytes → Except Fault Bytes
  | [] => .ok []
  | [_] => .error .oddLength
  | a :: b :: rest =>
    match value? a.toNat, value? b.toNat with
    | none, _ => .error (.badDigit a position)
    | _, none => .error (.badDigit b (position + 1))
    | some x, some y => (decodePairs (position + 2) rest).map (UInt8.ofNat (16 * x + y) :: ·)

/-- The bytes whose digits are the text. Its length is looked at before its digits. -/
def decode? (text : String) : Except Fault Bytes :=
  let bs := utf8 text
  if bs.length % 2 = 1 then .error .oddLength else decodePairs 0 bs

end SeedWallet.Hex
