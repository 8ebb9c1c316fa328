import SeedWallet.Curve.Point
import SeedWallet.Error
import SeedWallet.Text.Visible

/-!
# Public keys as text

- `PublicKey.hex`: the compressed form in hexadecimal digits.
- `PublicKey.parse`: the public key that hexadecimal digits of either written form stand for.
-/

namespace SeedWallet

/-- The fault in words. -/
def Hex.Fault.message : Hex.Fault → String
  | .oddLength => "Odd number of digits"
  | .badDigit byte position => "Invalid character " ++ Text.showChar (Char.ofNat byte.toNat) ++
      " at position " ++ Decimal.text position

namespace PublicKey

/-- The failure of bytes that are no written form of a public key. -/
def malformed : WalletError :=
  .invalidPublicKey "malformed public key"

/-- The digits of the compressed form. -/
def hex (key : PublicKey) : String :=
  Hex.encode key.compressed

/-- The public key whose written form the digits spell. -/
def parse (text : String) : Result PublicKey :=
  match Hex.decode? text with
  | .ok bytes =>
    match ofBytes? bytes with
    | some key => .ok key
    | none => .error malformed
  | .error fault => .error (.invalidPublicKey fault.message)

end PublicKey

end SeedWallet
