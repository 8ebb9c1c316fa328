import SeedWallet.Hash.Sha256

/-!
# RIPEMD-160 and the key hash

Two lines of 80 steps run over the same block, each with its own word order, rotations and
constants, and are added together at the end. Words are little-endian throughout.

- `ripemd160 m`: the hash, always 20 bytes (`length_ripemd160`).
- `hash160 m`: RIPEMD-160 of SHA-256, by which an address names a key or a script.
- `KeyHash`: the 20 bytes of such a hash.
-/

namespace SeedWallet

namespace Ripemd160

/-- The five words of the state. -/
structure State where
  a : UInt32
  b : UInt32
  c : UInt32
  d : UInt32
  e : UInt32

/-- The state before the first block. -/
def start : State :=
  ⟨0x67452301, 0xefcdab89, 0x98badcfe, 0x10325476, 0xc3d2e1f0⟩

/-- Rotation to the left. -/
@[inline] def rotl (x : UInt32) (n : UInt32) : UInt32 :=
  x <<< n ||| x >>> (32 - n)

/-- The word that four bytes spell, the least significant first. -/
def wordOfBytes (bs : Bytes) : UInt32 :=
  bs.foldr (fun b w => w <<< 8 ||| b.toUInt32) 0

/-- The four bytes of a word, the least significant first. -/
def bytesOfWord (w : UInt32) : Bytes :=
  [w.toUInt8, (w >>> 8).toUInt8, (w >>> 16).toUInt8, (w >>> 24).toUInt8]

/-! ## The two lines -/

/-- What a step does: its mixing function, the word of the block it reads, how far it rotates and
the constant it adds. -/
structure Step where
  mix : UInt32 → UInt32 → UInt32 → UInt32
  word : Nat
  rotation : UInt32
  constant : UInt32

/-- Sixteen steps that share a mixing function and a constant. -/
def stepGroup (mix : UInt32 → UInt32 → UInt32 → UInt32) (constant : UInt32) (words : List Nat)
    (rotations : List UInt32) : List Step :=
  List.zipWith (fun w r => ⟨mix, w, r, constant⟩) words rotations

/-- The odd one out of three words. -/
def parity (x y z : UInt32) : UInt32 := x ^^^ y ^^^ z

/-- The second word where the first is set, else the third. -/
def select (x y z : UInt32) : UInt32 := (x &&& y) ||| (~~~x &&& z)

/-- The first word or the complement of the second, against the third. -/
def implies (x y z : UInt32) : UInt32 := (x ||| ~~~y) ^^^ z

/-- The first word where the third is set, else the second. -/
def selectLast (x y z : UInt32) : UInt32 := (x &&& z) ||| (y &&& ~~~z)

/-- The first word against the second or the complement of the third. -/
def impliesLast (x y z : UInt32) : UInt32 := x ^^^ (y ||| ~~~z)

/-- The steps of the left line. -/
def leftSteps : List Step :=
  stepGroup parity 0x00000000
    [0, 1, 2, 3, 4, 5, 6, 7, 8, 9, 10, 11, 12, 13, 14, 15]
    [11, 14, 15, 12, 5, 8, 7, 9, 11, 13, 14, 15, 6, 7, 9, 8] ++
  stepGroup select 0x5a827999
    [7, 4, 13, 1, 10, 6, 15, 3, 12, 0, 9, 5, 2, 14, 11, 8]
    [7, 6, 8, 13, 11, 9, 7, 15, 7, 12, 15, 9, 11, 7, 13, 12] ++
  stepGroup implies 0x6ed9eba1
    [3, 10, 14, 4, 9, 15, 8, 1, 2, 7, 0, 6, 13, 11, 5, 12]
    [11, 13, 6, 7, 14, 9, 13, 15, 14, 8, 13, 6, 5, 12, 7, 5] ++
  stepGroup selectLast 0x8f1bbcdc
    [1, 9, 11, 10, 0, 8, 12, 4, 13, 3, 7, 15, 14, 5, 6, 2]
    [11, 12, 14, 15, 14, 15, 9, 8, 9, 14, 5, 6, 8, 6, 5, 12] ++
  stepGroup impliesLast 0xa953fd4e
    [4, 0, 5, 9, 7, 12, 2, 10, 14, 1, 3, 8, 11, 6, 15, 13]
    [9, 15, 5, 11, 6, 8, 13, 12, 5, 12, 13, 14, 11, 8, 5, 6]

/-- The steps of the right line. -/
def rightSteps : List Step :=
  stepGroup impliesLast 0x50a28be6
    [5, 14, 7, 0, 9, 2, 11, 4, 13, 6, 15, 8, 1, 10, 3, 12]
    [8, 9, 9, 11, 13, 15, 15, 5, 7, 7, 8, 11, 14, 14, 12, 6] ++
  stepGroup selectLast 0x5c4dd124
    [6, 11, 3, 7, 0, 13, 5, 10, 14, 15, 8, 12, 4, 9, 1, 2]
    [9, 13, 15, 7, 12, 8, 9, 11, 7, 7, 12, 7, 6, 15, 13, 11] ++
  stepGroup implies 0x6d703ef3
    [15, 5, 1, 3, 7, 14, 6, 9, 11, 8, 12, 2, 10, 0, 4, 13]
    [9, 7, 15, 11, 8, 6, 6, 14, 12, 13, 5, 14, 13, 13, 7, 5] ++
  stepGroup select 0x7a6d76e9
    [8, 6, 4, 1, 3, 11, 15, 0, 5, 12, 2, 13, 9, 7, 10, 14]
    [15, 5, 8, 11, 14, 14, 6, 14, 6, 9, 12, 9, 12, 5, 15, 8] ++
  stepGroup parity 0x00000000
    [12, 15, 10, 4, 1, 5, 8, 7, 6, 2, 13, 14, 0, 3, 9, 11]
    [8, 5, 12, 9, 12, 5, 14, 6, 8, 13, 6, 5, 15, 13, 11, 11]

/-- One step over the words of a block. -/
def step (words : Array UInt32) (s : State) (t : Step) : State :=
  let sum := s.a + t.mix s.b s.c s.d + words.getD t.word 0 + t.constant
  ⟨s.e, rotl sum t.rotation + s.e, s.b, rotl s.c 10, s.d⟩

/-- Takes one block of 64 bytes into the state. -/
def compress (s : State) (block : Bytes) : State :=
  let words := ((groups 4 16 block).map wordOfBytes).toArray
  let l := leftSteps.foldl (step words) s
  let r := rightSteps.foldl (step words) s
  ⟨s.b + l.c + r.d, s.c + l.d + r.e, s.d + l.e + r.a, s.e + l.a + r.b, s.a + l.b + r.c⟩

/-- The words of the state in order. -/
def output (s : State) : Bytes :=
  [s.a, s.b, s.c, s.d, s.e].flatMap bytesOfWord

@[simp] theorem length_output (s : State) : (output s).length = 20 := rfl

end Ripemd160

/-- RIPEMD-160 as a block hash. -/
def Ripemd160 : BlockHash where
  State := Ripemd160.State
  blockSize := 64
  lengthSize := 8
  lengthBytes n := (Bytes.ofNat 8 n).reverse
  start := Ripemd160.start
  compress := Ripemd160.compress
  output := Ripemd160.output

/-- The RIPEMD-160 hash of a message. -/
def ripemd160 (m : Bytes) : Bytes :=
  Ripemd160.hash m

@[simp] theorem length_ripemd160 (m : Bytes) : (ripemd160 m).length = 20 :=
  Ripemd160.length_output _

/-- The 20 bytes by which an address names a key or a script. -/
abbrev KeyHash := FixedBytes 20

/-- RIPEMD-160 of the SHA-256 hash. -/
def hash160 (m : Bytes) : KeyHash :=
  ⟨ripemd160 (sha256 m), length_ripemd160 _⟩

end SeedWallet
