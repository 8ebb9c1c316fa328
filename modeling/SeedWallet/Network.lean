import SeedWallet.Error
import SeedWallet.Json
import SeedWallet.Text.LowerCase

/-!
# Networks

- `Network`: the main network, the test network or a private one for regression tests.
- `Network.keyVersion`, `Network.scriptVersion`, `Network.hrp`: how addresses of the network begin.
- `Network.parse`: the network that a user names, by any of its usual names in any letter case.
- `Network.name`, `Network.ofName?`: the one name by which it is stored.
-/

namespace SeedWallet

/-- The network that addresses are for. -/
inductive Network where
  | mainnet
  | testnet
  | regtest
  deriving DecidableEq, Repr

namespace Network

/-- The version byte of an address that names a key. -/
def keyVersion : Network → UInt8
  | .mainnet => 0x00
  | .testnet | .regtest => 0x6f

/-- The version byte of an address that names a script. -/
def scriptVersion : Network → UInt8
  | .mainnet => 0x05
  | .testnet | .regtest => 0xc4

/-- The human-readable part of a segwit address. -/
def hrp : Network → String
  | .mainnet => "bc"
  | .testnet => "tb"
  | .regtest => "bcrt"

/-- The name by which the network is stored. -/
def name : Network → String
  | .mainnet => "mainnet"
  | .testnet => "testnet"
  | .regtest => "regtest"

/-- The network of that stored name. -/
def ofName? : String → Option Network
  | "mainnet" => some .mainnet
  | "testnet" => some .testnet
  | "regtest" => some .regtest
  | _ => none

@[simp] theorem ofName?_name (n : Network) : ofName? n.name = some n := by
  cases n <;> rfl

/-- The name by which the network is described. -/
def title : Network → String
  | .mainnet => "Mainnet"
  | .testnet => "Testnet"
  | .regtest => "Regtest"

/-- The name of the network's chain. -/
def chainName : Network → String
  | .mainnet => "bitcoin"
  | .testnet => "testnet"
  | .regtest => "regtest"

/-- The network that a user names. -/
def parse (text : String) : Result Network :=
  match Text.asciiToLower text with
  | "mainnet" | "bitcoin" | "main" => .ok .mainnet
  | "testnet" | "test" | "testnet3" => .ok .testnet
  | "regtest" => .ok .regtest
  | other => .error (.invalidEncoding ("unknown network: " ++ other))

/-- Coin type zero is the main network's; every other one is taken for a test coin. -/
def ofCoinType (coinType : UInt32) : Network :=
  if coinType = 0 then .mainnet else .testnet

/-- A network is exchanged as its stored name. -/
def toJson (n : Network) : Json :=
  .ofText n.name

/-- The network of that stored name. -/
def ofJson? (j : Json) : Option Network :=
  j.constant?.bind ofName?

@[simp] theorem ofJson?_toJson (n : Network) : ofJson? n.toJson = some n := by
  cases n <;> rfl

end Network

end SeedWallet
