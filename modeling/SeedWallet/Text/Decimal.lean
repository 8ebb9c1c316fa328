import SeedWallet.Arithmetic

/-!
# Decimal numbers

- `Decimal.digits n`: the decimal digits of `n`, without leading zeros.
- `Decimal.readBelow limit cs`: the number that the digits `cs` spell, when it is below `limit`; a
  plus sign may stand in front, and zeros may lead.
- `Decimal.Fault`: what is wrong with a text that is no such number. Digits are looked at from the
  left, so the first character that is no digit and the first digit that carries the number past the
  limit compete, and the one further left is reported.
-/

namespace SeedWallet.Decimal

/-- Why a text is no number. -/
inductive Fault where
  /-- There are no characters at all. -/
  | empty
  /-- A character is no digit. -/
  | badDigit
  /-- The number does not fit. -/
  | tooLarge
  deriving DecidableEq, Repr

/-- The fault in words. -/
def Fault.message : Fault → String
  | .empty => "cannot parse integer from empty string"
  | .badDigit => "invalid digit found in string"
  | .tooLarge => "number too large to fit in target type"

/-- The decimal digits of `n`. -/
def digits (n : Nat) : List Char :=
  Nat.toDigits 10 n

/-- The decimal text of `n`. -/
def text (n : Nat) : String :=
  String.ofList (digits n)

/-- The value of a digit. -/
def value (c : Char) : Nat :=
  c.toNat - '0'.toNat

/-- Takes digits into a number that stays below the limit. -/
def scan (limit : Nat) : Nat → List Char → Except Fault Nat
  | n, [] => .ok n
  | n, c :: cs =>
    if c.isDigit then
      if 10 * n + value c < limit then scan limit (10 * n + value c) cs else .error .tooLarge
    else .error .badDigit

/-- The number below `limit` that the characters spell. -/
def readBelow (limit : Nat) : List Char → Except Fault Nat
  | [] => .error .empty
  | ['+'] => .error .badDigit
  | '+' :: cs => scan limit 0 cs
  | cs => scan limit 0 cs

/-- A 32-bit number. -/
def readUInt32 (s : String) : Except Fault UInt32 :=
  (readBelow (2 ^ 32) s.toList).map UInt32.ofNat

end SeedWallet.Decimal
