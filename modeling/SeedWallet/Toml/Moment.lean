import SeedWallet.Text.Decimal

/-!
# TOML dates and times

- `Toml.isDate`: a date that the calendar has.
- `Toml.isTime`: a time of day, to the second or finer; `Toml.isZonedTime`: the same, with or without
  an offset from universal time.
- `Toml.isMoment`: a date, a time, or a date and a time that a letter divides.
-/

namespace SeedWallet.Toml

/-- The number that two digits spell. -/
def pair? (a b : Char) : Option Nat :=
  if a.isDigit && b.isDigit then some (10 * Decimal.value a + Decimal.value b) else none

/-- Whether a year has a leap day. -/
def isLeapYear (year : Nat) : Bool :=
  year % 4 == 0 && (year % 100 != 0 || year % 400 == 0)

/-- The number of days of a month. -/
def daysIn (year month : Nat) : Nat :=
  if month = 2 then if isLeapYear year then 29 else 28
  else if month = 4 ∨ month = 6 ∨ month = 9 ∨ month = 11 then 30
  else 31

/-- Whether the characters are a date. -/
def isDate : List Char → Bool
  | [a, b, c, d, '-', e, f, '-', g, h] =>
    match pair? a b, pair? c d, pair? e f, pair? g h with
    | some century, some year, some month, some day =>
      1 ≤ month && month ≤ 12 && 1 ≤ day && day ≤ daysIn (100 * century + year) month
    | _, _, _, _ => false
  | _ => false

/-- Whether an hour and a minute are those of a time of day. -/
def isClock (a b c d : Char) : Bool :=
  match pair? a b, pair? c d with
  | some hour, some minute => hour ≤ 23 && minute ≤ 59
  | _, _ => false

/-- What follows the fraction of a second, if there is one. -/
def afterFraction? : List Char → Option (List Char)
  | '.' :: cs =>
    if (cs.takeWhile Char.isDigit).isEmpty then none else some (cs.dropWhile Char.isDigit)
  | cs => some cs

/-- What follows a time of day. A minute may have a leap second. -/
def afterTime? : List Char → Option (List Char)
  | a :: b :: ':' :: c :: d :: ':' :: e :: f :: cs =>
    match pair? e f with
    | some second => if isClock a b c d && second ≤ 60 then afterFraction? cs else none
    | none => none
  | _ => none

/-- Whether the characters are a time of day. -/
def isTime (cs : List Char) : Bool :=
  match afterTime? cs with
  | some [] => true
  | _ => false

/-- Whether the characters are an offset from universal time. -/
def isOffset : List Char → Bool
  | ['Z'] | ['z'] => true
  | [sign, a, b, ':', c, d] => (sign == '+' || sign == '-') && isClock a b c d
  | _ => false

/-- Whether the characters are a time of day, with or without an offset. -/
def isZonedTime (cs : List Char) : Bool :=
  match afterTime? cs with
  | some [] => true
  | some cs => isOffset cs
  | none => false

/-- Whether the characters are a date, a time of day, or both with a letter between them. -/
def isMoment (cs : List Char) : Bool :=
  isDate cs || isTime cs ||
    match cs.drop 10 with
    | t :: time => (t == 'T' || t == 't') && isDate (cs.take 10) && isZonedTime time
    | [] => false

end SeedWallet.Toml
