import SeedWallet.Address.Base58
import SeedWallet.Hash.Sha256

/-!
# Base 58 with a checksum

Four bytes of a double hash follow the payload, so that a mistyped address is noticed.

- `Base58Check.encode`: the text of a payload.
- `Base58Check.decode`: the payload of a text, or the first thing that is wrong with it.
-/

namespace SeedWallet.Base58Check

/-- Why a text has no payload. -/
inductive Fault where
  /-- A character is no digit. -/
  | foreignCharacter
  /-- There are fewer bytes than a checksum has. -/
  | tooShort
  /-- The checksum does not fit the payload. -/
  | checksum
  deriving DecidableEq, Repr

/-- Bytes of the checksum. -/
def checksumSize : Nat := 4

/-- The beginning of the double hash of a payload. -/
def checksum (payload : Bytes) : Bytes :=
  (doubleSha256 payload).take checksumSize

@[simp] theorem length_checksum (payload : Bytes) : (checksum payload).length = checksumSize := by
  simp [checksum, checksumSize]

/-- The text of a payload. -/
def encode (payload : Bytes) : String :=
  String.ofList (Base58.encode (payload ++ checksum payload))

/-- The payload of a text. -/
def decode (text : String) : Except Fault Bytes :=
  match Base58.decode? text.toList with
  | none => .error .foreignCharacter
  | some bs =>
    if bs.length < checksumSize then .error .tooShort
    else
      let payload := bs.take (bs.length - checksumSize)
      if checksum payload = bs.drop (bs.length - checksumSize) then .ok payload
      else .error .checksum

end SeedWallet.Base58Check
