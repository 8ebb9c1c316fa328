import SeedWallet.Proofs.AddressRecords
import SeedWallet.Proofs.WrittenAddresses

/-!
# Sizes of outputs

The size of an output stands in two tables: by purpose, which is what a wallet pays change by, and by kind
of address, which is what it pays to others by. The kind of an address is read off its text, so the tables
agree on the addresses that wallets build for themselves.

- `Fee.destinationSize_written`: the size of an output that pays to a built address.
- `Fee.totalSize_change`: what change adds to a transaction.
- `Fee.change_costs_as_destination`: change is charged like a payment to the address that it goes to.
-/

namespace SeedWallet

/-- Both tables have the same size for the addresses of a purpose. -/
theorem Purpose.outputSize_addressKind (purpose : Purpose) :
    purpose.addressKind.outputSize = purpose.outputSize := by
  cases purpose <;> rfl

namespace Fee

/-- An output that pays to a built address is as large as its purpose says. -/
theorem destinationSize_written (purpose : Purpose) (network : Network) (hash : KeyHash) :
    destinationSize (Address.written purpose network hash) = .ok purpose.outputSize := by
  rw [destinationSize, Address.classify_written, ← purpose.outputSize_addressKind]
  rfl

theorem changeSize_of_originatesChange {profile : Profile}
    (h : profile.purpose.originatesChange = true) :
    changeSize profile = .ok profile.purpose.outputSize := if_pos h

/-- Change adds its own size to a transaction and nothing else. -/
theorem totalSize_change (profile : Profile) (utxos : List Utxo) (destination : String) :
    totalSize profile utxos destination true =
      totalSize profile utxos destination false >>= fun size =>
        (changeSize profile).map (size + ·) := by
  rw [totalSize, totalSize]
  cases destinationSize destination with
  | error e => rfl
  | ok size => cases changeSize profile <;> rfl

/-- The address of a record is paid to with an output of the size that its purpose says. -/
theorem destinationSize_of_addressAt {w : Wallet} {chain : Chain} {index : UInt32}
    {r : AddressRecord} (h : w.addressAt chain index = .ok r) :
    destinationSize r.address = .ok w.profile.purpose.outputSize := by
  obtain ⟨key, -, hbuild, -⟩ := (Wallet.addressAt_eq_ok_iff w chain index r).mp h
  rw [Address.build_eq] at hbuild
  rw [← Except.ok.inj hbuild, destinationSize_written]

/-- **Change costs what a payment to the same address costs.** The address of any hash under any profile
is of the kind of the profile's purpose, and paying to it takes an output of the size that the purpose
says. So the change of a wallet that makes any is as large as a payment to any of its own addresses for
change, and adds that much to every transaction. -/
theorem change_costs_as_destination :
    (∀ (hash : KeyHash) (profile : Profile), ∃ address,
      Address.build hash profile = .ok address ∧
        Address.classify address = .ok profile.purpose.addressKind ∧
        destinationSize address = .ok profile.purpose.outputSize) ∧
    (∀ (w : Wallet) (index : UInt32) (r : AddressRecord),
      w.profile.purpose.originatesChange = true → w.change index = .ok r →
        changeSize w.profile = destinationSize r.address ∧
        ∀ utxos destination, w.transactionSize utxos destination true =
          w.transactionSize utxos destination false >>= fun size =>
            (destinationSize r.address).map (size + ·)) := by
  constructor
  · intro hash profile
    exact ⟨_, Address.build_eq hash profile, Address.classify_written _ _ _,
      destinationSize_written _ _ _⟩
  · intro w index r horiginates hr
    have hsame : changeSize w.profile = destinationSize r.address := by
      rw [changeSize_of_originatesChange horiginates, destinationSize_of_addressAt hr]
    refine ⟨hsame, fun utxos destination => ?_⟩
    rw [← hsame]
    exact totalSize_change w.profile utxos destination

end Fee

end SeedWallet
