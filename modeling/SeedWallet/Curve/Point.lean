import SeedWallet.Curve.Field

/-!
# Points of secp256k1

- `PublicKey`: a point of the curve `y² = x³ + 7`.
- `Jacobian`: a point as three coordinates, of which `(x / z², y / z³)` is meant, and which has the
  neutral element at `z = 0`; adding needs no division.
- `Jacobian.multiple k p`: the point added to itself `k` times.
- `PublicKey.compressed`, `PublicKey.uncompressed`, `PublicKey.ofBytes?`: the written forms.
-/

namespace SeedWallet

/-- A point of the curve. -/
structure PublicKey where
  x : FieldElement
  y : FieldElement
  onCurve : y * y = x * x * x + 7
  deriving DecidableEq

/-- A point without division, the neutral element included. -/
structure Jacobian where
  x : FieldElement
  y : FieldElement
  z : FieldElement

namespace Jacobian

/-! ## The group -/

/-- The neutral element. -/
def neutral : Jacobian := ⟨1, 1, 0⟩

/-- The coordinates of a curve point. -/
def ofPublicKey (p : PublicKey) : Jacobian := ⟨p.x, p.y, 1⟩

/-- The tangent through a point. -/
def double (p : Jacobian) : Jacobian :=
  let yy := p.y * p.y
  let d := p.x * yy
  let d := d + d
  let d := d + d
  let xx := p.x * p.x
  let e := xx + xx + xx
  let x := e * e - (d + d)
  let c := yy * yy
  let c := c + c
  let c := c + c
  let yz := p.y * p.z
  ⟨x, e * (d - x) - (c + c), yz + yz⟩

/-- The chord through two points, or the tangent if they are one. -/
def add (p q : Jacobian) : Jacobian :=
  if p.z = 0 then q
  else if q.z = 0 then p
  else
    let pzz := p.z * p.z
    let qzz := q.z * q.z
    let u := p.x * qzz
    let s := p.y * (qzz * q.z)
    let h := q.x * pzz - u
    let r := q.y * (pzz * p.z) - s
    if h = 0 then
      if r = 0 then double p else neutral
    else
      let hh := h * h
      let hhh := hh * h
      let v := u * hh
      let x := r * r - hhh - (v + v)
      ⟨x, r * (v - x) - s * hhh, h * (p.z * q.z)⟩

/-- The point added to itself as often as a number below 2 ^ 256 says: doubled for each binary digit,
and the point added for each that is set. -/
def multiple (k : Nat) (p : Jacobian) : Jacobian :=
  (Bits.ofNat 256 k).foldl (fun r bit => if bit then (double r).add p else double r) neutral

/-- The curve point that is meant, unless it is the neutral element. -/
def toPublicKey? (p : Jacobian) : Option PublicKey :=
  if p.z = 0 then none
  else
    let w := Modular.inverse p.z
    let ww := w * w
    let x := p.x * ww
    let y := p.y * (ww * w)
    if h : y * y = x * x * x + 7 then some ⟨x, y, h⟩ else none

end Jacobian

namespace PublicKey

/-- The point that secret keys are multiplied with. -/
def generator : PublicKey where
  x := ⟨0x79be667ef9dcbbac55a06295ce870b07029bfcdb2dce28d959f2815b16f81798, by decide⟩
  y := ⟨0x483ada7726a3c4655da4fbfc0e1108a8fd17b448a68554199c47d08ffb10d4b8, by decide⟩
  onCurve := by decide

/-! ## Written forms -/

/-- The 33 bytes of the point: whether `y` is odd, and `x`. -/
def compressed (p : PublicKey) : Bytes :=
  (if p.y.isOdd then 3 else 2) :: p.x.bytes

/-- The 65 bytes of the point: both coordinates. -/
def uncompressed (p : PublicKey) : Bytes :=
  4 :: (p.x.bytes ++ p.y.bytes)

/-- The point with these coordinates. -/
def ofCoordinates? (x y : FieldElement) : Option PublicKey :=
  if h : y * y = x * x * x + 7 then some ⟨x, y, h⟩ else none

/-- The point with that first coordinate and a second one of that parity. -/
def ofAbscissa? (x : FieldElement) (odd : Bool) : Option PublicKey :=
  (x * x * x + 7).sqrt?.bind fun y => ofCoordinates? x (if y.isOdd = odd then y else -y)

/-- The point whose written form the bytes are: 33 bytes that begin with 2 or 3, or 65 bytes that
begin with 4, or with 6 or 7 if that agrees with the parity of the second coordinate. -/
def ofBytes? : Bytes → Option PublicKey
  | [] => none
  | tag :: coordinates =>
    if coordinates.length = 32 ∧ (tag = 2 ∨ tag = 3) then
      (FieldElement.ofBytes? coordinates).bind fun x => ofAbscissa? x (tag = 3)
    else if coordinates.length = 64 ∧ (tag = 4 ∨ tag = 6 ∨ tag = 7) then do
      let x ← FieldElement.ofBytes? (coordinates.take 32)
      let y ← FieldElement.ofBytes? (coordinates.drop 32)
      if tag = 4 ∨ y.isOdd = (tag = 7 : Bool) then ofCoordinates? x y else none
    else none

@[simp] theorem length_compressed (p : PublicKey) : p.compressed.length = 33 := by
  simp [compressed]

@[simp] theorem length_uncompressed (p : PublicKey) : p.uncompressed.length = 65 := by
  simp [uncompressed]

@[simp] theorem ofCoordinates?_self (p : PublicKey) : ofCoordinates? p.x p.y = some p := by
  simp [ofCoordinates?, p.onCurve]

/-- The uncompressed form of a point is read as that point. -/
@[simp] theorem ofBytes?_uncompressed (p : PublicKey) : ofBytes? p.uncompressed = some p := by
  have ht : (p.x.bytes ++ p.y.bytes).take 32 = p.x.bytes := by
    rw [List.take_append_of_le_length (by simp), List.take_of_length_le (by simp)]
  have hd : (p.x.bytes ++ p.y.bytes).drop 32 = p.y.bytes := by
    rw [List.drop_append_of_le_length (by simp), List.drop_of_length_le (by simp), List.nil_append]
  simp [uncompressed, ofBytes?, ht, hd]

end PublicKey

end SeedWallet
