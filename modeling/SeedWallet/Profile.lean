import SeedWallet.Network
import SeedWallet.Purpose
import SeedWallet.Text.Description

/-!
# Coin profiles

A profile says which part of the key tree a wallet works in and how its addresses are written.

- `Profile.ofPurpose`, `Profile.create`: a profile with the network that its coin type implies.
- `Profile.withNetwork`: the same profile on another network.
- `Profile.importDefault`: what imported keys are taken for unless a profile is given.
-/

namespace SeedWallet

/-- The purpose, coin and account that keys are derived under, and the network of their addresses. -/
structure Profile where
  purpose : Purpose
  coinType : UInt32
  account : UInt32
  network : Network
  deriving DecidableEq, Repr

namespace Profile

/-- The first account of the main network's native segwit addresses. -/
def importDefault : Profile :=
  ⟨.nativeSegwit, 0, 0, .mainnet⟩

/-- The profile of a purpose, on the network that the coin type implies. -/
def ofPurpose (purpose : Purpose) (coinType account : UInt32) : Profile :=
  ⟨purpose, coinType, account, .ofCoinType coinType⟩

/-- The profile of the purpose with that number. -/
def create (purpose coinType account : UInt32) : Result Profile :=
  (Purpose.ofNumber purpose).map fun p => ofPurpose p coinType account

/-- The same profile on a network of choice. -/
def withNetwork (p : Profile) (network : Network) : Profile :=
  { p with network }

/-- A description that shows every field. -/
def description (p : Profile) : String :=
  Text.describe "CoinProfile"
    [("purpose", p.purpose.name), ("coin_type", Decimal.text p.coinType.toNat),
     ("account", Decimal.text p.account.toNat), ("network", p.network.title)]

/-- The profile as a record. -/
def toJson (p : Profile) : Json :=
  .record [("purpose", p.purpose.toJson), ("coin_type", .natural p.coinType.toNat),
    ("account", .natural p.account.toNat), ("network", p.network.toJson)]

/-- The profile of a record. -/
def ofJson? (j : Json) : Option Profile :=
  match j.fields? ["purpose", "coin_type", "account", "network"] with
  | some [some purpose, some coinType, some account, some network] => do
    return ⟨← Purpose.ofJson? purpose, ← coinType.uint32?, ← account.uint32?,
      ← Network.ofJson? network⟩
  | _ => none

end Profile

end SeedWallet
