import SeedWallet.Bits

/-!
# Powers modulo a number

- `Modular.pow a e`: a power with an exponent below 2 ^ 256, by repeated squaring.
- `Modular.inverse a`: the inverse of a nonzero element modulo a prime, which is a power of it.
-/

namespace SeedWallet.Modular

/-- The power with an exponent below 2 ^ 256: squared for each binary digit, and multiplied for each
that is set. -/
def pow {n : Nat} [NeZero n] (a : Fin n) (e : Nat) : Fin n :=
  (Bits.ofNat 256 e).foldl (fun r bit => if bit then r * r * a else r * r) 1

/-- The inverse of a nonzero element modulo a prime `n`; zero for zero. -/
def inverse {n : Nat} [NeZero n] (a : Fin n) : Fin n :=
  pow a (n - 2)

end SeedWallet.Modular
