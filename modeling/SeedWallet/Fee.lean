import SeedWallet.Address
import SeedWallet.Utxo

/-!
# Fees

How large a transaction will be, in virtual bytes, and what it costs at a rate. The sizes are agreed
on with whoever sets the rates, and are not measured.

- `Fee.inputSize`, `Fee.destinationSize`, `Fee.changeSize`: the parts of a transaction.
- `Fee.totalSize`: their sum and the fixed part.
- `Fee.totalWord`: the same sum in words of 64 bits, which is what prices are made of.
- `Fee.estimate`: the price, at most the largest word.
-/

namespace SeedWallet.Fee

/-- The fixed part of a transaction: version, lock time, counts and the segwit marker. -/
def overhead : Nat := 11

/-- The input that spends an output. -/
def inputSize (u : Utxo) : Nat :=
  u.purpose.inputSize

/-- The output that pays change; legacy wallets have none. -/
def changeSize (profile : Profile) : Result Nat :=
  if profile.purpose.originatesChange then .ok profile.purpose.outputSize
  else .error (.noChangeOutput profile.purpose.number)

/-- The output that pays change, if there is to be one. -/
def changePart (profile : Profile) (change : Bool) : Result Nat :=
  if change then changeSize profile else .ok 0

/-- The output that pays to an address. -/
def destinationSize (destination : String) : Result Nat :=
  (Address.classify destination).map AddressKind.outputSize

/-- The inputs together. -/
def inputsSize (utxos : List Utxo) : Nat :=
  (utxos.map inputSize).sum

/-- The size of a transaction that spends outputs to a destination, with or without change. -/
def totalSize (profile : Profile) (utxos : List Utxo) (destination : String) (change : Bool) :
    Result Nat := do
  let destinationBytes ← destinationSize destination
  let changeBytes ← if change then changeSize profile else pure 0
  return overhead + inputsSize utxos + destinationBytes + changeBytes

/-! ## In words of 64 bits

Prices are made of words, whose sums wrap around where they are too large. -/

/-- The inputs together, added one after the other. -/
def inputsWord (utxos : List Utxo) : UInt64 :=
  utxos.foldl (fun sum u => sum + UInt64.ofNat (inputSize u)) 0

/-- The size of a transaction as words add it up. -/
def totalWord (profile : Profile) (utxos : List Utxo) (destination : String) (change : Bool) :
    Result UInt64 := do
  let destinationBytes ← destinationSize destination
  let changeBytes ← changePart profile change
  return UInt64.ofNat overhead + inputsWord utxos + UInt64.ofNat destinationBytes +
    UInt64.ofNat changeBytes

/-- The product, or the largest word where a word has no room for the product. -/
def saturatingMul (size rate : UInt64) : UInt64 :=
  if size.toNat * rate.toNat < 2 ^ 64 then size * rate else UInt64.ofNat (2 ^ 64 - 1)

/-- The fee at a rate for each virtual byte. -/
def estimate (profile : Profile) (utxos : List Utxo) (destination : String) (change : Bool)
    (rate : UInt64) : Result UInt64 :=
  (totalWord profile utxos destination change).map fun size => saturatingMul size rate

/-- No product wraps around. -/
theorem toNat_saturatingMul (size rate : UInt64) :
    (saturatingMul size rate).toNat = min (size.toNat * rate.toNat) (2 ^ 64 - 1) := by
  rw [saturatingMul]
  split
  · rename_i h
    rw [UInt64.toNat_mul, Nat.mod_eq_of_lt h]
    omega
  · rw [UInt64.toNat_ofNat', Nat.mod_eq_of_lt (by omega)]
    omega

/-! ## Inputs of a list -/

theorem inputsSize_cons (u : Utxo) (xs : List Utxo) :
    inputsSize (u :: xs) = inputSize u + inputsSize xs := by
  simp [inputsSize]

theorem inputsSize_append (xs ys : List Utxo) :
    inputsSize (xs ++ ys) = inputsSize xs + inputsSize ys := by
  simp [inputsSize]

end SeedWallet.Fee
