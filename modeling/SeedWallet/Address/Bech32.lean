import SeedWallet.Bytes

/-!
# Checksummed text in base 32

A human-readable part and symbols of five binary digits, of which the last six are a checksum over
both. The checksum is the remainder of a polynomial over 32 elements, and is offset by a constant that
tells two variants apart.

- `Symbol`: five binary digits; `Symbol.char` and `Symbol.ofChar?` are its character.
- `Bech32.checksum`, `Bech32.verifies`: the six symbols that close a sequence, and whether they do.
-/

namespace SeedWallet

/-- Five binary digits. -/
abbrev Symbol := BitVec 5

namespace Symbol

/-- The characters of the symbols in order. -/
def alphabet : List Char :=
  ['q', 'p', 'z', 'r', 'y', '9', 'x', '8', 'g', 'f', '2', 't', 'v', 'd', 'w', '0', 's', '3', 'j',
   'n', '5', '4', 'k', 'h', 'c', 'e', '6', 'm', 'u', 'a', '7', 'l']

/-- The character of a symbol, in lower case. -/
def char (s : Symbol) : Char :=
  alphabet.getD s.toNat 'q'

/-- The symbol of a character of either case. -/
def ofChar? (c : Char) : Option Symbol :=
  (alphabet.idxOf? c.toLower).map (BitVec.ofNat 5)

/-- The character of a symbol is read as it. -/
@[simp] theorem ofChar?_char (s : Symbol) : ofChar? s.char = some s := by
  have all : ∀ t : Symbol, ofChar? t.char = some t := by decide
  exact all s

/-- The binary digits of symbols, five to each. -/
def bits (ss : List Symbol) : List Bool :=
  ss.flatMap fun s => Bits.ofNat 5 s.toNat

/-- Binary digits in groups of five, the last one filled up with zeros. -/
def ofBits (ds : List Bool) : List Symbol :=
  (allGroups 5 ds).map fun g =>
    BitVec.ofNat 5 (Bits.toNat (g ++ List.replicate (5 - g.length) false))

end Symbol

namespace Bech32

/-- Which constant the checksum is offset by. -/
inductive Variant where
  /-- The first one, for witness version zero. -/
  | bech32
  /-- The later one. -/
  | bech32m
  deriving DecidableEq, Repr

/-- The remainder that a valid sequence has. -/
def Variant.residue : Variant → BitVec 30
  | .bech32 => 1
  | .bech32m => 0x2bc830a3

/-- What the five digits that leave the remainder at the top come back as: the generator multiplied
with them. -/
def feedback (top : Symbol) : BitVec 30 :=
  (if top.getLsbD 0 then 0x3b6a57b2 else 0) ^^^ (if top.getLsbD 1 then 0x26508e6d else 0) ^^^
    (if top.getLsbD 2 then 0x1ea119fa else 0) ^^^ (if top.getLsbD 3 then 0x3d4233dd else 0) ^^^
    (if top.getLsbD 4 then 0x2a1462b3 else 0)

/-- The remainder after one more symbol. -/
def step (r : BitVec 30) (s : Symbol) : BitVec 30 :=
  (r <<< 5) ^^^ s.setWidth 30 ^^^ feedback (r.extractLsb' 25 5)

/-- The remainder of a sequence. -/
def residue (ss : List Symbol) : BitVec 30 :=
  ss.foldl step 1

/-- The symbols that a human-readable part counts as: the high digits of its characters, a zero, and
their low digits. -/
def hrpSymbols (hrp : List Char) : List Symbol :=
  hrp.map (fun c => BitVec.ofNat 5 (c.toNat / 32)) ++ 0 ::
    hrp.map (fun c => BitVec.ofNat 5 (c.toNat % 32))

/-- The six symbols that close a sequence. -/
def checksum (variant : Variant) (hrp : List Char) (data : List Symbol) : List Symbol :=
  let r := residue (hrpSymbols hrp ++ data ++ List.replicate 6 0) ^^^ variant.residue
  [25, 20, 15, 10, 5, 0].map fun i => r.extractLsb' i 5

/-- Whether the last six symbols close the sequence. -/
def verifies (variant : Variant) (hrp : List Char) (data : List Symbol) : Bool :=
  residue (hrpSymbols hrp ++ data) = variant.residue

@[simp] theorem length_checksum (variant : Variant) (hrp : List Char) (data : List Symbol) :
    (checksum variant hrp data).length = 6 := rfl

end Bech32

end SeedWallet
