import SeedWallet.Address.Bech32
import SeedWallet.Text.LowerCase
import SeedWallet.Text.Utf8

/-!
# Segwit addresses

The human-readable part names the network, the separator is the last `1`, the first symbol after it is
the witness version, and the symbols between it and the checksum spell the witness program.

- `WitnessProgram`: what an address of any network and version stands for.
- `Segwit.encode`: the text of a witness program, in lower case.
- `Segwit.decode`: the witness program of a text, or the first thing that is wrong with it.
- `Segwit.Fault`: what can be wrong, in the order in which it is looked at.
-/

namespace SeedWallet

/-- The human-readable part, the version and the program of an address. -/
structure WitnessProgram where
  hrp : String
  version : Nat
  program : Bytes
  deriving DecidableEq, Repr

namespace Segwit

/-- Why a text is no segwit address. -/
inductive Fault where
  /-- There are more than 90 bytes. -/
  | tooLong
  /-- A character after the separator is no symbol, letters of both cases are mixed, or there is no
  separator. -/
  | characters
  /-- The human-readable part is empty or too long or has a character that does not show. -/
  | hrp
  /-- There are no symbols. -/
  | noData
  /-- The version is above 16. -/
  | version (v : Nat)
  /-- The checksum does not fit the version. -/
  | checksum
  /-- The symbols between version and checksum do not fill bytes, up to zeros. -/
  | padding
  /-- No program of the version has so many bytes. -/
  | programLength
  deriving DecidableEq, Repr

/-- The longest address, in bytes. -/
def maxLength : Nat := 90

/-- The longest human-readable part. -/
def maxHrp : Nat := 83

/-- The checksum of a version. -/
def variant (version : Nat) : Bech32.Variant :=
  if version = 0 then .bech32 else .bech32m

/-- Whether the versions's programs may have that length. -/
def isProgramLength (version length : Nat) : Bool :=
  if version = 0 then length == 20 || length == 32 else decide (2 ≤ length ∧ length ≤ 40)

/-! ## Writing -/

/-- The symbols between separator and checksum. -/
def payload (version : Nat) (program : Bytes) : List Symbol :=
  BitVec.ofNat 5 version :: Symbol.ofBits (Bytes.bits program)

/-- The text of a witness program. -/
def encode (hrp : String) (version : Nat) (program : Bytes) : String :=
  let data := payload version program
  let closing := Bech32.checksum (variant version) hrp.toList data
  String.ofList (hrp.toList ++ '1' :: (data ++ closing).map Symbol.char)

/-! ## Reading -/

/-- The characters before and after the last separator. -/
def splitAtSeparator? (cs : List Char) : Option (List Char × List Char) :=
  match cs.reverse.span (· != '1') with
  | (after, _ :: before) => some (before.reverse, after.reverse)
  | (_, []) => none

/-- Whether letters of both cases occur. -/
def isMixedCase (cs : List Char) : Bool :=
  cs.any Char.isUpper && cs.any Char.isLower

/-- Whether the characters may be a human-readable part. -/
def isHrp (cs : List Char) : Bool :=
  !cs.isEmpty && decide (cs.length ≤ maxHrp) &&
    cs.all fun c => decide (33 ≤ c.toNat) && decide (c.toNat ≤ 126)

/-- The human-readable part and the symbols after it. -/
def readParts (cs : List Char) : Except Fault (List Char × List Symbol) :=
  match splitAtSeparator? cs with
  | none => .error .characters
  | some (hrp, data) =>
    match data.mapM Symbol.ofChar? with
    | none => .error .characters
    | some symbols =>
      if isMixedCase cs then .error .characters
      else if isHrp hrp then .ok (hrp.map Char.toLower, symbols)
      else .error .hrp

/-- The program that symbols spell: digits that are left over are zeros, and fewer than five. -/
def readProgram (symbols : List Symbol) : Except Fault Bytes :=
  let ds := Symbol.bits symbols
  let rest := ds.drop (ds.length / 8 * 8)
  if rest.length < 5 ∧ rest.all (· == false) then .ok (Bytes.ofBits ds) else .error .padding

/-- The witness program of a text. -/
def decode (text : String) : Except Fault WitnessProgram :=
  if maxLength < (utf8 text).length then .error .tooLong
  else
    match readParts text.toList with
    | .error fault => .error fault
    | .ok (_, []) => .error .noData
    | .ok (hrp, v :: symbols) =>
      let version := v.toNat
      if 16 < version then .error (.version version)
      else if symbols.length + 1 < 6 ∨
          !Bech32.verifies (variant version) hrp (v :: symbols) then .error .checksum
      else if symbols.length + 1 = 6 then .error .noData
      else
        match readProgram (symbols.take (symbols.length - 6)) with
        | .error fault => .error fault
        | .ok program =>
          if isProgramLength version program.length then
            .ok ⟨String.ofList hrp, version, program⟩
          else .error .programLength

end Segwit

end SeedWallet
