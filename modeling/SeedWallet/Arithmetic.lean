/-!
# Powers and zero of the built-in numbers

A library of algebra finds the power and the zero of `Nat` and `Int` by way of its own hierarchy,
once it is imported. Here they are the built-in ones whatever else a module imports, so a definition
is the same term in a program and in the theory about it.
-/

namespace SeedWallet

@[default_instance 20000]
instance (priority := 20000) instPowNatNat : Pow Nat Nat := instPowNat

-- A base of unknown type is a `Nat`, so this default comes after that one.
@[default_instance 15000]
instance (priority := 20000) instPowIntNat : Pow Int Nat := instPowNat

instance (priority := 20000) instZeroNat : Zero Nat := Zero.ofOfNat0

end SeedWallet
