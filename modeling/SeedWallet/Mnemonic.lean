import SeedWallet.Error
import SeedWallet.Hash.Hmac
import SeedWallet.Mnemonic.WordList
import SeedWallet.Text.Blank
import SeedWallet.Text.Decomposition

/-!
# Mnemonics

A wallet grows from 16 to 32 bytes of entropy, which are written down as words: the bytes and the
beginning of their hash, cut into numbers of eleven binary digits, each of which is the place of a
word.

- `Mnemonic`: entropy of a supported length.
- `Mnemonic.words`, `Mnemonic.phrase`: its words, and the words with blanks between them.
- `Mnemonic.ofWords`, `Mnemonic.parse`: the mnemonic that words or a text spell.
- `Mnemonic.ofEntropy`, `Mnemonic.generate`: the mnemonic of given or of random bytes.
- `Mnemonic.seed`: the bytes that the master key is derived from.
-/

namespace SeedWallet

/-- Entropy of a supported length. -/
structure Mnemonic where
  entropy : Bytes
  supported : entropy.length ∈ [16, 20, 24, 28, 32]
  deriving DecidableEq

namespace Mnemonic

/-- Why there is no mnemonic. -/
inductive Fault where
  /-- No mnemonic has so many words. -/
  | wordCount (count : Nat)
  /-- The word at the position is not in the list. -/
  | unknownWord (position : Nat)
  /-- The words do not carry the beginning of the hash. -/
  | checksum
  /-- No mnemonic has so many bits of entropy. -/
  | entropySize (bits : Nat)
  /-- A number of words was asked for that no mnemonic has. -/
  | requestedCount (count : Nat)
  deriving DecidableEq, Repr

/-- The fault in words. -/
def Fault.message : Fault → String
  | .wordCount n => "mnemonic has an invalid word count: " ++ Decimal.text n ++
      ". Word count must be 12, 15, 18, 21, or 24"
  | .unknownWord i => "mnemonic contains an unknown word (word " ++ Decimal.text i ++ ")"
  | .checksum => "the mnemonic has an invalid checksum"
  | .entropySize n => "entropy was not between 128-256 bits or not a multiple of 32 bits: " ++
      Decimal.text n ++ " bits"
  | .requestedCount n => "invalid word count " ++ Decimal.text n ++
      ", must be 12, 15, 18, 21 or 24"

/-- The fault as a failed wallet operation. -/
def Fault.toError (fault : Fault) : WalletError :=
  .invalidMnemonic fault.message

/-! ## Words -/

/-- The first digits of the hash of the entropy, one for each 32 of the entropy. -/
def checksum (entropy : Bytes) : List Bool :=
  (Bytes.bits (sha256 entropy)).take (entropy.length / 4)

/-- The digits that the words spell. -/
def digits (m : Mnemonic) : List Bool :=
  Bytes.bits m.entropy ++ checksum m.entropy

/-- The places of the words in the list. -/
def indices (m : Mnemonic) : List Nat :=
  (fullGroups 11 m.digits).map Bits.toNat

/-- The words. -/
def words (m : Mnemonic) : List String :=
  m.indices.map WordList.word

/-- The words with blanks between them. -/
def phrase (m : Mnemonic) : String :=
  String.intercalate " " m.words

/-- The seed of the master key: the phrase, stretched. -/
def seed (m : Mnemonic) : Bytes :=
  pbkdf2Sha512 (utf8 m.phrase) (utf8 "mnemonic") 2048

/-! ## Making mnemonics -/

/-- The mnemonic of the entropy. -/
def ofEntropy (entropy : Bytes) : Except Fault Mnemonic :=
  if h : entropy.length ∈ [16, 20, 24, 28, 32] then .ok ⟨entropy, h⟩
  else .error (.entropySize (8 * entropy.length))

/-- The places of words that begin at `position`. -/
def lookUp (position : Nat) : List String → Except Fault (List Nat)
  | [] => .ok []
  | w :: ws =>
    match WordList.index? w with
    | some i => (lookUp (position + 1) ws).map (i :: ·)
    | none => .error (.unknownWord position)

/-- The mnemonic that the words spell. -/
def ofWords (ws : List String) : Except Fault Mnemonic :=
  if ws.length ∈ [12, 15, 18, 21, 24] then do
    let indices ← lookUp 0 ws
    let digits := indices.flatMap (Bits.ofNat 11)
    let size := 32 * (ws.length / 3)
    let entropy := Bytes.ofBits (digits.take size)
    if digits.drop size = checksum entropy then ofEntropy entropy else throw .checksum
  else .error (.wordCount ws.length)

/-- The words of a text, each in its compatibility decomposition. -/
def wordsOf (text : String) : List String :=
  (Text.words (Text.decompose text.toList)).map String.ofList

/-- The mnemonic that a text spells. -/
def parse (text : String) : Except Fault Mnemonic :=
  ofWords (wordsOf text)

/-- How many bytes of entropy a mnemonic of so many words has. -/
def entropySize? (count : Nat) : Option Nat :=
  if count ∈ [12, 15, 18, 21, 24] then some (4 * (count / 3)) else none

/-- A mnemonic of so many words, from random bytes. -/
def generate (count : Nat) (random : (size : Nat) → FixedBytes size) : Except Fault Mnemonic :=
  match entropySize? count with
  | some size => ofEntropy (random size).val
  | none => .error (.requestedCount count)

end Mnemonic

end SeedWallet
