import SeedWallet.Path

/-!
# Derived addresses

- `AddressRecord`: an address with the path and the profile that it was derived for, and its key. The
  record keeps its profile when the wallet moves on to another one.
-/

namespace SeedWallet

/-- A derived address. -/
structure AddressRecord where
  address : String
  path : Path
  profile : Profile
  /-- The compressed public key in hexadecimal digits. -/
  publicKey : String
  deriving DecidableEq, Repr

namespace AddressRecord

/-- The address as a record. -/
def toJson (a : AddressRecord) : Json :=
  .record [("address", .ofText a.address), ("derivation_path", a.path.toJson),
    ("coin_profile", a.profile.toJson), ("public_key", .ofText a.publicKey)]

/-- The address of a record. -/
def ofJson? (j : Json) : Option AddressRecord :=
  match j.fields? ["address", "derivation_path", "coin_profile", "public_key"] with
  | some [some address, some path, some profile, some publicKey] => do
    return ⟨← address.text?, ← Path.ofJson? path, ← Profile.ofJson? profile, ← publicKey.text?⟩
  | _ => none

end AddressRecord

end SeedWallet
