import SeedWallet.Profile
import SeedWallet.Text.Split

/-!
# Derivation paths

A path leads from the master key to one address key: purpose, coin type and account, which are
hardened, then the chain and the index of the address on it.

- `Path`: such a path; its numbers are any 32-bit numbers.
- `Path.text`, `Path.parse`: the written form `m/84'/0'/0'/0/3`; hardened components end in an
  apostrophe, and an `h` is read in its place.
- `Path.children`: the steps down the key tree, which exist for numbers below 2 ^ 31 only.
-/

namespace SeedWallet

/-! ## Chains -/

/-- The two chains of addresses in an account. -/
inductive Chain where
  /-- Addresses given to others. -/
  | receive
  /-- Addresses that change is paid to. -/
  | change
  deriving DecidableEq, Repr

namespace Chain

/-- The path component of the chain. -/
def number : Chain → UInt32
  | .receive => 0
  | .change => 1

/-- The chain with that path component. -/
def ofNumber (n : UInt32) : Result Chain :=
  if n = 0 then .ok .receive
  else if n = 1 then .ok .change
  else .error (.invalidChain n)

@[simp] theorem ofNumber_number (c : Chain) : ofNumber c.number = .ok c := by
  cases c <;> rfl

/-- Only the number of a chain is read as one. -/
theorem number_of_ofNumber {n : UInt32} {c : Chain} (h : ofNumber n = .ok c) : c.number = n := by
  unfold ofNumber at h
  split at h
  · cases h; simp_all [number]
  · split at h
    · cases h; simp_all [number]
    · cases h

/-- The name of the chain. -/
def name : Chain → String
  | .receive => "Receive"
  | .change => "Change"

/-- A chain is exchanged as its number. -/
def toJson (c : Chain) : Json :=
  .natural c.number.toNat

/-- The chain that a number stands for. -/
def ofJson? (j : Json) : Option Chain :=
  j.uint32?.bind fun n => (ofNumber n).toOption

@[simp] theorem ofJson?_toJson (c : Chain) : ofJson? c.toJson = some c := by
  cases c <;> rfl

end Chain

/-! ## Steps in the key tree -/

/-- The first number of a hardened child. -/
def hardenedOffset : UInt32 := 0x80000000

/-- One step down the key tree. -/
inductive ChildNumber where
  /-- A child that can be derived from the public key too. -/
  | normal (index : UInt32)
  /-- A child that needs the secret key. -/
  | hardened (index : UInt32)
  deriving DecidableEq, Repr

namespace ChildNumber

/-- The normal child with that index. -/
def normal? (index : UInt32) : Option ChildNumber :=
  if index < hardenedOffset then some (.normal index) else none

/-- The hardened child with that index. -/
def hardened? (index : UInt32) : Option ChildNumber :=
  if index < hardenedOffset then some (.hardened index) else none

/-- The number that enters the derivation. -/
def number : ChildNumber → UInt32
  | .normal index => index
  | .hardened index => index + hardenedOffset

/-- A description of the child. -/
def description : ChildNumber → String
  | .normal index => Text.describe "Normal" [("index", Decimal.text index.toNat)]
  | .hardened index => Text.describe "Hardened" [("index", Decimal.text index.toNat)]

end ChildNumber

/-! ## Paths -/

/-- The way from the master key to an address key. -/
structure Path where
  purpose : Purpose
  coin : UInt32
  account : UInt32
  chain : Chain
  index : UInt32
  deriving DecidableEq, Repr

namespace Path

/-- The path with these components. The purpose is looked at before the chain. -/
def create (purpose coin account chain index : UInt32) : Result Path := do
  let purpose ← Purpose.ofNumber purpose
  let chain ← Chain.ofNumber chain
  return ⟨purpose, coin, account, chain, index⟩

/-- The path of an address in the part of the tree that a profile names. -/
def ofProfile (p : Profile) (chain : Chain) (index : UInt32) : Path :=
  ⟨p.purpose, p.coinType, p.account, chain, index⟩

/-- Whether the path leads to an address for change. -/
def isChange (p : Path) : Bool :=
  p.chain = .change

/-! ### The written form -/

/-- A hardened component. -/
def markedDigits (n : UInt32) : List Char :=
  Decimal.digits n.toNat ++ ['\'']

/-- The components of the path as they are written. -/
def components (p : Path) : List (List Char) :=
  [markedDigits p.purpose.number, markedDigits p.coin, markedDigits p.account,
   Decimal.digits p.chain.number.toNat, Decimal.digits p.index.toNat]

/-- The written form of the path. -/
def text (p : Path) : String :=
  String.ofList ('m' :: '/' :: joinWith '/' p.components)

/-- Why a text is no written path. -/
inductive Fault where
  /-- It does not begin at the master key. -/
  | noRoot
  /-- It has not five components. -/
  | componentCount
  /-- A marker is missing from one of the first three components or stands on another one. -/
  | misplacedMarker
  /-- A component is no 32-bit number. -/
  | notNumber
  deriving DecidableEq, Repr

/-- The fault in words. -/
def Fault.message : Fault → String
  | .noRoot => "path must start with 'm/'"
  | .componentCount => "expected 5 components"
  | .misplacedMarker => "only purpose, coin and account are hardened"
  | .notNumber => "component is not a number"

/-- The characters before the marker of a hardened component, if it has one. -/
def unmarked? (cs : List Char) : Option (List Char) :=
  match cs.getLast? with
  | some c => if c = '\'' ∨ c = 'h' then some cs.dropLast else none
  | none => none

/-- A component that is hardened or not. -/
def readComponent (hardened : Bool) (cs : List Char) : Except Fault UInt32 :=
  let marked := unmarked? cs
  if marked.isSome = hardened then
    match Decimal.readBelow (2 ^ 32) (marked.getD cs) with
    | .ok n => .ok (UInt32.ofNat n)
    | .error _ => .error .notNumber
  else .error .misplacedMarker

/-- The five numbers of a written path. -/
def readComponents (cs : List Char) :
    Except Fault (UInt32 × UInt32 × UInt32 × UInt32 × UInt32) :=
  match cs with
  | 'm' :: '/' :: body =>
    match splitOn '/' body with
    | [purpose, coin, account, chain, index] => do
      return (← readComponent true purpose, ← readComponent true coin, ← readComponent true account,
        ← readComponent false chain, ← readComponent false index)
    | _ => .error .componentCount
  | _ => .error .noRoot

/-- The path that a text spells. -/
def parse (s : String) : Result Path :=
  match readComponents s.toList with
  | .ok (purpose, coin, account, chain, index) => create purpose coin account chain index
  | .error fault => .error (.invalidPath (fault.message ++ ": " ++ s))

/-! ### The steps of a path -/

/-- The failure of a component that is too large to be derived. -/
def outOfRange (p : Path) (component : UInt32) : WalletError :=
  .invalidPath ("component " ++ Decimal.text component.toNat ++ " of " ++ p.text ++
    " exceeds 2^31 - 1")

/-- The steps down the key tree, or the first component that is too large. -/
def children (p : Path) : Result (List ChildNumber) :=
  let hardened (n : UInt32) : Result ChildNumber :=
    match ChildNumber.hardened? n with
    | some c => .ok c
    | none => .error (p.outOfRange n)
  let normal (n : UInt32) : Result ChildNumber :=
    match ChildNumber.normal? n with
    | some c => .ok c
    | none => .error (p.outOfRange n)
  do
    return [← hardened p.purpose.number, ← hardened p.coin, ← hardened p.account,
      ← normal p.chain.number, ← normal p.index]

/-- A description that shows every field. -/
def description (p : Path) : String :=
  Text.describe "DerivationPath"
    [("purpose", p.purpose.name), ("coin", Decimal.text p.coin.toNat),
     ("account", Decimal.text p.account.toNat), ("change", p.chain.name),
     ("index", Decimal.text p.index.toNat)]

/-- The path as a record. -/
def toJson (p : Path) : Json :=
  .record [("purpose", p.purpose.toJson), ("coin", .natural p.coin.toNat),
    ("account", .natural p.account.toNat), ("change", p.chain.toJson),
    ("index", .natural p.index.toNat)]

/-- The path of a record. -/
def ofJson? (j : Json) : Option Path :=
  match j.fields? ["purpose", "coin", "account", "change", "index"] with
  | some [some purpose, some coin, some account, some chain, some index] => do
    return ⟨← Purpose.ofJson? purpose, ← coin.uint32?, ← account.uint32?, ← Chain.ofJson? chain,
      ← index.uint32?⟩
  | _ => none

end Path

end SeedWallet
