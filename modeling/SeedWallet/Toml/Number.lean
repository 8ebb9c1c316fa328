import SeedWallet.Hex
import SeedWallet.Text.Decimal
import SeedWallet.Text.Split

/-!
# TOML numbers

- `Toml.digits?`: digits between which single underscores may stand.
- `Toml.integer?`: an integer of 64 bits, in decimal or, with a mark, to another base.
- `Toml.isFloat`: whether a word is a number with a fraction or an exponent. Positive numbers past
  the range of double precision are none.
-/

namespace SeedWallet.Toml

/-- The digits of runs that single underscores divide. -/
def digits? (isDigit : Char → Bool) (cs : List Char) : Option (List Char) :=
  let runs := splitOn '_' cs
  if runs.all fun run => !run.isEmpty && run.all isDigit then some runs.flatten else none

/-- Whether a character is a digit to a base, which is sixteen at most. -/
def isDigitOf (base : Nat) (c : Char) : Bool :=
  match Hex.value? c.toNat with
  | some v => v < base
  | none => false

/-- The number that digits spell. -/
def numeral (base : Nat) (ds : List Char) : Nat :=
  ds.foldl (fun n c => n * base + (Hex.value? c.toNat).getD 0) 0

/-- Whether a minus sign stands in front, and what follows the sign if there is any. -/
def readSign : List Char → Bool × List Char
  | '-' :: cs => (true, cs)
  | '+' :: cs => (false, cs)
  | cs => (false, cs)

/-- Decimal digits that do not begin with a zero, unless there is nothing else. -/
def whole? (cs : List Char) : Option (List Char) :=
  match digits? Char.isDigit cs with
  | some ('0' :: _ :: _) => none
  | ds => ds

/-- The integer, if it has 64 bits. -/
def int64? (n : Int) : Option Int :=
  if -2 ^ 63 ≤ n ∧ n < 2 ^ 63 then some n else none

/-- The integer that digits to a base spell. -/
def basedInteger? (base : Nat) (cs : List Char) : Option Int :=
  (digits? (isDigitOf base) cs).bind fun ds => int64? (numeral base ds)

/-- The integer that a word spells. -/
def integer? : List Char → Option Int
  | '0' :: 'x' :: cs => basedInteger? 16 cs
  | '0' :: 'o' :: cs => basedInteger? 8 cs
  | '0' :: 'b' :: cs => basedInteger? 2 cs
  | cs =>
    let (negative, cs) := readSign cs
    (whole? cs).bind fun ds =>
      int64? (if negative then -(numeral 10 ds : Int) else numeral 10 ds)

/-- Whether `digits` times that power of ten rounds to infinity in double precision. The number of
digits settles it, unless the value is close to the largest finite one. -/
def isHuge (digits : Nat) (exponent : Int) : Bool :=
  let size := (Decimal.digits digits).length + exponent
  if digits = 0 ∨ size < 300 then false
  else if 310 < size then true
  else decide ((2 ^ 1024 - 2 ^ 970) * 10 ^ (-exponent).toNat ≤ digits * 10 ^ exponent.toNat)

/-- The digits of the fraction, after its point. -/
def fraction? : List Char → Option (List Char)
  | [] => some []
  | _ :: cs => digits? Char.isDigit cs

/-- The exponent, after its letter. -/
def exponent? : List Char → Option Int
  | [] => some 0
  | _ :: cs =>
    let (negative, cs) := readSign cs
    (digits? Char.isDigit cs).map fun ds =>
      if negative then -(numeral 10 ds : Int) else numeral 10 ds

/-- Whether the characters are a number with a fraction or an exponent. -/
def isDecimalFloat (negative : Bool) (cs : List Char) : Bool :=
  let mantissa := cs.takeWhile fun c => c != 'e' && c != 'E'
  let exponent := cs.drop mantissa.length
  let whole := mantissa.takeWhile (· != '.')
  let fraction := mantissa.drop whole.length
  match whole? whole, fraction? fraction, exponent? exponent with
  | some ds, some fs, some e =>
    !(fraction.isEmpty && exponent.isEmpty) &&
      (negative || !isHuge (numeral 10 (ds ++ fs)) (e - fs.length))
  | _, _, _ => false

/-- Whether a word is a number with a fraction or an exponent, infinity or not a number. -/
def isFloat (cs : List Char) : Bool :=
  let (negative, cs) := readSign cs
  cs == ['i', 'n', 'f'] || cs == ['n', 'a', 'n'] || isDecimalFloat negative cs

end SeedWallet.Toml
