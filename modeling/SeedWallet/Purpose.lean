import SeedWallet.Error
import SeedWallet.Json

/-!
# Purposes

The first component of a derivation path says which kind of address its keys get, and with it how
large a transaction's inputs and outputs of that kind are.

- `Purpose`: one of the three kinds.
- `Purpose.number`, `Purpose.ofNumber`: the path component of a purpose; no other number is one.
- `Purpose.inputSize`, `Purpose.outputSize`: virtual bytes of an input that spends such an address
  and of an output that pays to one.
- `Purpose.originatesChange`: whether wallets of that purpose pay change to themselves.
-/

namespace SeedWallet

/-- The kind of address that keys are derived for. -/
inductive Purpose where
  /-- Pays to the hash of a key. -/
  | legacy
  /-- A segwit output wrapped into a script hash. -/
  | nestedSegwit
  /-- A segwit output of its own. -/
  | nativeSegwit
  deriving DecidableEq, Repr

namespace Purpose

/-- Every purpose, the oldest first. -/
def all : List Purpose := [.legacy, .nestedSegwit, .nativeSegwit]

/-- The path component of the purpose. -/
def number : Purpose → UInt32
  | .legacy => 44
  | .nestedSegwit => 49
  | .nativeSegwit => 84

/-- The purpose with that path component. -/
def ofNumber (n : UInt32) : Result Purpose :=
  if n = 44 then .ok .legacy
  else if n = 49 then .ok .nestedSegwit
  else if n = 84 then .ok .nativeSegwit
  else .error (.invalidPurpose n)

@[simp] theorem ofNumber_number (p : Purpose) : ofNumber p.number = .ok p := by
  cases p <;> rfl

/-- Only the number of a purpose is read as one. -/
theorem number_of_ofNumber {n : UInt32} {p : Purpose} (h : ofNumber n = .ok p) : p.number = n := by
  unfold ofNumber at h
  split at h
  · cases h; simp_all [number]
  · split at h
    · cases h; simp_all [number]
    · split at h
      · cases h; simp_all [number]
      · cases h

/-- The name of the purpose. -/
def name : Purpose → String
  | .legacy => "Legacy"
  | .nestedSegwit => "NestedSegwit"
  | .nativeSegwit => "NativeSegwit"

/-- Virtual bytes of an input that spends an address of the purpose. -/
def inputSize : Purpose → Nat
  | .legacy => 148
  | .nestedSegwit => 91
  | .nativeSegwit => 68

/-- Virtual bytes of an output that pays to an address of the purpose. -/
def outputSize : Purpose → Nat
  | .legacy => 34
  | .nestedSegwit => 32
  | .nativeSegwit => 31

/-- Whether wallets of the purpose pay change to themselves. -/
def originatesChange : Purpose → Bool
  | .legacy => false
  | _ => true

/-- A purpose is exchanged as its number. -/
def toJson (p : Purpose) : Json :=
  .natural p.number.toNat

/-- The purpose that a number stands for. -/
def ofJson? (j : Json) : Option Purpose :=
  j.uint32?.bind fun n => (ofNumber n).toOption

@[simp] theorem ofJson?_toJson (p : Purpose) : ofJson? p.toJson = some p := by
  cases p <;> rfl

end Purpose

end SeedWallet
