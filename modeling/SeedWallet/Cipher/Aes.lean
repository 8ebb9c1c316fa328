import SeedWallet.Bytes

/-!
# AES-256

Sixteen bytes are changed in fourteen rounds, each with a round key of its own.

- `Aes.mul`: the product of bytes as polynomials over two elements, modulo `x⁸ + x⁴ + x³ + x + 1`.
- `Aes.substitute`: the substitution box, the inverse followed by an affine map.
- `Aes.roundKeys`: the fifteen round keys of a 32-byte key.
- `Aes.encryptBlock`: the cipher on one block, which keeps its length (`length_encryptBlock`). Counter
  mode needs no way back.
-/

namespace SeedWallet.Aes

/-! ## Bytes as field elements -/

/-- The product with `x`. -/
def double (a : UInt8) : UInt8 :=
  if a &&& 0x80 = 0 then a <<< 1 else (a <<< 1) ^^^ 0x1b

/-- The product of two bytes. -/
def mul (a b : UInt8) : UInt8 :=
  (Bits.ofNat 8 b.toNat).foldl (fun r bit => if bit then double r ^^^ a else double r) 0

/-- The inverse of a nonzero byte, as the power 254; zero for zero. -/
def inverse (a : UInt8) : UInt8 :=
  (Bits.ofNat 8 254).foldl (fun r bit => if bit then mul (mul r r) a else mul r r) 1

/-- The box entry of a byte. -/
def affine (a : UInt8) : UInt8 :=
  let b := inverse a
  let rotl (n : UInt8) : UInt8 := b <<< n ||| b >>> (8 - n)
  b ^^^ rotl 1 ^^^ rotl 2 ^^^ rotl 3 ^^^ rotl 4 ^^^ 0x63

/-- The substitution box. -/
def box : Array UInt8 :=
  ((List.range 256).map fun n => affine (UInt8.ofNat n)).toArray

/-- The substitution of a byte. -/
def substitute (a : UInt8) : UInt8 :=
  box.getD a.toNat 0

/-! ## Round keys -/

/-- The next eight bytes of key words from the last 32: the first word is mixed with the last one,
turned, substituted and marked with the constant of the step; the middle one with a substitution. -/
def nextKey (constant : UInt8) (key : Bytes) : Bytes :=
  let words := groups 4 8 key
  let word (i : Nat) : Bytes := words.getD i []
  let last := word 7
  let turned := (last.drop 1 ++ last.take 1).map substitute
  let w0 := Bytes.xor (Bytes.xor (word 0) turned) [constant, 0, 0, 0]
  let w1 := Bytes.xor (word 1) w0
  let w2 := Bytes.xor (word 2) w1
  let w3 := Bytes.xor (word 3) w2
  let w4 := Bytes.xor (word 4) (w3.map substitute)
  let w5 := Bytes.xor (word 5) w4
  let w6 := Bytes.xor (word 6) w5
  let w7 := Bytes.xor (word 7) w6
  w0 ++ w1 ++ w2 ++ w3 ++ w4 ++ w5 ++ w6 ++ w7

/-- Keys of 32 bytes, each from the one before, with constants that double. -/
def keySchedule : Nat → UInt8 → Bytes → Bytes
  | 0, _, key => key
  | steps + 1, constant, key => key ++ keySchedule steps (double constant) (nextKey constant key)

/-- The fifteen round keys. -/
def roundKeys (key : Bytes) : List Bytes :=
  groups 16 15 (keySchedule 7 1 key)

/-! ## The cipher -/

/-- The byte that comes to each place when the rows of the block are turned: the block is written
column by column, and row `r` is turned by `r` places. -/
def shiftRows (block : Bytes) : Bytes :=
  [0, 5, 10, 15, 4, 9, 14, 3, 8, 13, 2, 7, 12, 1, 6, 11].map fun i => block.getD i 0

/-- One column multiplied with the fixed matrix. -/
def mixColumn : Bytes → Bytes
  | [a, b, c, d] =>
    [double a ^^^ (double b ^^^ b) ^^^ c ^^^ d, a ^^^ double b ^^^ (double c ^^^ c) ^^^ d,
     a ^^^ b ^^^ double c ^^^ (double d ^^^ d), (double a ^^^ a) ^^^ b ^^^ c ^^^ double d]
  | column => column

/-- Every column multiplied with the fixed matrix. -/
def mixColumns (block : Bytes) : Bytes :=
  (groups 4 4 block).flatMap mixColumn

/-- The rounds after the first round key; the last one leaves the columns as they are. -/
def rounds : List Bytes → Bytes → Bytes
  | [], block => block
  | [key], block => Bytes.xor (shiftRows (block.map substitute)) key
  | key :: keys, block =>
    rounds keys (Bytes.xor (mixColumns (shiftRows (block.map substitute))) key)

/-- The cipher on a block of sixteen bytes. -/
def encryptBlock (keys : List Bytes) (block : Bytes) : Bytes :=
  match keys with
  | [] => block
  | key :: keys => rounds keys (Bytes.xor block key)

/-! ## Lengths -/

/-- Eight words of four bytes come from eight. -/
theorem length_nextKey (constant : UInt8) {key : Bytes} (h : key.length = 32) :
    (nextKey constant key).length = 32 := by
  have hword : ∀ i (hi : i < (groups 4 8 key).length), (groups 4 8 key)[i].length = 4 := fun i hi =>
    length_of_mem_groups (by omega) (List.getElem_mem hi)
  simp [nextKey, hword]

theorem length_keySchedule (steps : Nat) (constant : UInt8) {key : Bytes} (h : key.length = 32) :
    (keySchedule steps constant key).length = 32 * (steps + 1) := by
  induction steps generalizing constant key with
  | zero => exact h
  | succ steps ih =>
    rw [keySchedule, List.length_append, h, ih _ (length_nextKey constant h)]
    omega

/-- Each round key of a 32-byte key is a block. -/
theorem length_of_mem_roundKeys {key : Bytes} (h : key.length = 32) :
    ∀ roundKey ∈ roundKeys key, roundKey.length = 16 := fun _ =>
  length_of_mem_groups (by rw [length_keySchedule 7 1 h]; decide)

theorem length_mixColumn (column : Bytes) : (mixColumn column).length = column.length := by
  unfold mixColumn
  split <;> rfl

theorem length_mixColumns {block : Bytes} (h : block.length = 16) :
    (mixColumns block).length = 16 := by
  have hcolumns : (mixColumns block).length = (groups 4 4 block).flatten.length := by
    rw [mixColumns, List.length_flatMap, List.length_flatten]
    exact congrArg List.sum (List.map_congr_left fun column _ => length_mixColumn column)
  rw [hcolumns, flatten_groups, List.length_take, h]
  rfl

section

variable {keys : List Bytes} (hkeys : ∀ key ∈ keys, key.length = 16)

include hkeys

/-- Every round keeps the length of the block. -/
theorem length_rounds {block : Bytes} (h : block.length = 16) : (rounds keys block).length = 16 := by
  induction keys generalizing block with
  | nil => exact h
  | cons key keys ih =>
    rw [List.forall_mem_cons] at hkeys
    cases keys with
    | nil => rw [rounds, Bytes.length_xor, hkeys.1]; rfl
    | cons next keys =>
      rw [rounds]
      · refine ih hkeys.2 ?_
        rw [Bytes.length_xor, length_mixColumns rfl, hkeys.1]
        rfl
      · exact List.cons_ne_nil _ _

/-- The cipher makes a block of a block. -/
theorem length_encryptBlock {block : Bytes} (h : block.length = 16) :
    (encryptBlock keys block).length = 16 := by
  cases keys with
  | nil => exact h
  | cons key keys =>
    rw [List.forall_mem_cons] at hkeys
    refine length_rounds hkeys.2 ?_
    rw [Bytes.length_xor, h, hkeys.1]
    rfl

end

end SeedWallet.Aes
