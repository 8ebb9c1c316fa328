import SeedWallet.Path

/-!
# Spendable outputs

- `Utxo`: an output of an earlier transaction that the wallet can spend, and the path of the address
  that it paid to.
-/

namespace SeedWallet

/-- An output that can be spent. -/
structure Utxo where
  /-- The transaction that the output is of. -/
  transaction : String
  /-- The place of the output in it. -/
  output : UInt32
  /-- The amount in the smallest unit. -/
  value : UInt64
  /-- The path of the address, which says how large an input that spends it is. -/
  path : Path
  /-- The script of a script hash. -/
  witnessScript : Option Bytes
  /-- Whether the transaction is in a block. -/
  confirmed : Bool
  deriving DecidableEq, Repr

namespace Utxo

/-- A confirmed output without a script. -/
def create (transaction : String) (output : UInt32) (value : UInt64) (path : Path) : Utxo :=
  ⟨transaction, output, value, path, none, true⟩

/-- The purpose of the address that the output paid to. -/
def purpose (u : Utxo) : Purpose :=
  u.path.purpose

/-- The output as a record, which has no script field if there is no script. -/
def toJson (u : Utxo) : Json :=
  let script := match u.witnessScript with
    | some bs => [("witness_script", .array (bs.map fun b => .natural b.toNat))]
    | none => []
  .record ([("previous_tx_id", .ofText u.transaction), ("output_index", .natural u.output.toNat),
    ("value", .natural u.value.toNat), ("derivation_path", u.path.toJson)] ++ script ++
    [("confirmed", .bool u.confirmed)])

/-- The script of a field that may be missing or null. -/
def scriptOfJson? : Option Json → Option (Option Bytes)
  | none | some .null => some none
  | some (.array xs) => (xs.mapM Json.uint8?).map some
  | _ => none

/-- The output of a record. -/
def ofJson? (j : Json) : Option Utxo :=
  match j.fields? ["previous_tx_id", "output_index", "value", "derivation_path", "witness_script",
      "confirmed"] with
  | some [some transaction, some output, some value, some path, script, some confirmed] => do
    return ⟨← transaction.text?, ← output.uint32?, ← value.uint64?, ← Path.ofJson? path,
      ← scriptOfJson? script, ← confirmed.bool?⟩
  | _ => none

end Utxo

end SeedWallet
