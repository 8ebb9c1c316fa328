/-!
# Blanks and words

- `isBlank c`: the Unicode property White_Space.
- `words cs`: the longest stretches without blanks.
-/

namespace SeedWallet.Text

/-- The characters with the property White_Space. -/
def isBlank (c : Char) : Bool :=
  let n := c.toNat
  (decide (0x9 ≤ n) && decide (n ≤ 0xd)) || n == 0x20 || n == 0x85 || n == 0xa0 || n == 0x1680 ||
    (decide (0x2000 ≤ n) && decide (n ≤ 0x200a)) || n == 0x2028 || n == 0x2029 || n == 0x202f ||
    n == 0x205f || n == 0x3000

/-- The stretches between single blanks; where blanks meet or end the text there are empty ones. -/
def wordsFrom (cs : List Char) : List (List Char) :=
  cs.foldr (fun c ws =>
    if isBlank c then [] :: ws
    else match ws with
      | [] => [[c]]
      | w :: ws => (c :: w) :: ws) []

/-- The longest stretches of characters that are no blanks. -/
def words (cs : List Char) : List (List Char) :=
  (wordsFrom cs).filter fun w => !w.isEmpty

end SeedWallet.Text
