import SeedWallet.Hex
import SeedWallet.Text.Split

/-!
# Sets of characters by code

A character class of the Unicode standard is kept as rows of hexadecimal codes and of ranges of
them, separated by blanks.

- `CodeRanges.ofRows rows`: the ranges that the rows spell, ends included.
- `CodeRanges.contains ranges c`: whether the code of `c` is in one of the ranges.
-/

namespace SeedWallet

/-- Ranges of character codes, both ends included. -/
abbrev CodeRanges := List (Nat × Nat)

namespace CodeRanges

/-- The number that hexadecimal digits spell. -/
def code (cs : List Char) : Nat :=
  cs.foldl (fun n c => 16 * n + (Hex.value? c.toNat).getD 0) 0

/-- One code or a range of codes. -/
def range (cs : List Char) : Nat × Nat :=
  match splitOn '-' cs with
  | [a, b] => (code a, code b)
  | _ => (code cs, code cs)

/-- The ranges that the rows spell. -/
def ofRows (rows : List String) : CodeRanges :=
  rows.flatMap fun row => (splitOn ' ' row.toList).map range

/-- Whether the code of the character lies in one of the ranges. -/
def contains (ranges : CodeRanges) (c : Char) : Bool :=
  ranges.any fun r => decide (r.1 ≤ c.toNat) && decide (c.toNat ≤ r.2)

end CodeRanges

end SeedWallet
