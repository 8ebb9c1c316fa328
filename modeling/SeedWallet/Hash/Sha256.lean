import SeedWallet.Hash.BlockHash

/-!
# SHA-256

Eight 32-bit words of state, blocks of 64 bytes, 64 rounds to a block.

- `sha256 m`: the hash, always 32 bytes (`length_sha256`).
- `doubleSha256 m`: the hash of the hash, whose first bytes are the checksum of an address.
-/

namespace SeedWallet

namespace Sha256

/-- The eight words of the state. -/
structure State where
  a : UInt32
  b : UInt32
  c : UInt32
  d : UInt32
  e : UInt32
  f : UInt32
  g : UInt32
  h : UInt32

/-- The state before the first block. -/
def start : State :=
  ⟨0x6a09e667, 0xbb67ae85, 0x3c6ef372, 0xa54ff53a, 0x510e527f, 0x9b05688c, 0x1f83d9ab, 0x5be0cd19⟩

/-- One constant for each round. -/
def roundConstants : List UInt32 :=
  [0x428a2f98, 0x71374491, 0xb5c0fbcf, 0xe9b5dba5, 0x3956c25b, 0x59f111f1, 0x923f82a4, 0xab1c5ed5,
   0xd807aa98, 0x12835b01, 0x243185be, 0x550c7dc3, 0x72be5d74, 0x80deb1fe, 0x9bdc06a7, 0xc19bf174,
   0xe49b69c1, 0xefbe4786, 0x0fc19dc6, 0x240ca1cc, 0x2de92c6f, 0x4a7484aa, 0x5cb0a9dc, 0x76f988da,
   0x983e5152, 0xa831c66d, 0xb00327c8, 0xbf597fc7, 0xc6e00bf3, 0xd5a79147, 0x06ca6351, 0x14292967,
   0x27b70a85, 0x2e1b2138, 0x4d2c6dfc, 0x53380d13, 0x650a7354, 0x766a0abb, 0x81c2c92e, 0x92722c85,
   0xa2bfe8a1, 0xa81a664b, 0xc24b8b70, 0xc76c51a3, 0xd192e819, 0xd6990624, 0xf40e3585, 0x106aa070,
   0x19a4c116, 0x1e376c08, 0x2748774c, 0x34b0bcb5, 0x391c0cb3, 0x4ed8aa4a, 0x5b9cca4f, 0x682e6ff3,
   0x748f82ee, 0x78a5636f, 0x84c87814, 0x8cc70208, 0x90befffa, 0xa4506ceb, 0xbef9a3f7, 0xc67178f2]

/-- Rotation to the right. -/
@[inline] def rotr (x : UInt32) (n : UInt32) : UInt32 :=
  x >>> n ||| x <<< (32 - n)

/-- The word that four bytes spell, the most significant first. -/
def wordOfBytes (bs : Bytes) : UInt32 :=
  bs.foldl (fun w b => w <<< 8 ||| b.toUInt32) 0

/-- The four bytes of a word, the most significant first. -/
def bytesOfWord (w : UInt32) : Bytes :=
  [(w >>> 24).toUInt8, (w >>> 16).toUInt8, (w >>> 8).toUInt8, w.toUInt8]

/-- Each word of the schedule from the 17th on mixes four earlier ones. -/
def extendSchedule (w : Array UInt32) : Array UInt32 :=
  let t := w.size
  let x := w.getD (t - 15) 0
  let y := w.getD (t - 2) 0
  let s0 := rotr x 7 ^^^ rotr x 18 ^^^ x >>> 3
  let s1 := rotr y 17 ^^^ rotr y 19 ^^^ y >>> 10
  w.push (s1 + w.getD (t - 7) 0 + s0 + w.getD (t - 16) 0)

/-- The 64 words that a block gives to the rounds. -/
def schedule (block : Bytes) : List UInt32 :=
  (Nat.repeat extendSchedule 48 ((groups 4 16 block).map wordOfBytes).toArray).toList

/-- One round, with the sum of its constant and its schedule word. -/
def round (s : State) (kw : UInt32) : State :=
  let s1 := rotr s.e 6 ^^^ rotr s.e 11 ^^^ rotr s.e 25
  let choice := (s.e &&& s.f) ^^^ (~~~s.e &&& s.g)
  let t1 := s.h + s1 + choice + kw
  let s0 := rotr s.a 2 ^^^ rotr s.a 13 ^^^ rotr s.a 22
  let majority := (s.a &&& s.b) ^^^ (s.a &&& s.c) ^^^ (s.b &&& s.c)
  ⟨t1 + (s0 + majority), s.a, s.b, s.c, s.d + t1, s.e, s.f, s.g⟩

/-- Takes one block of 64 bytes into the state. -/
def compress (s : State) (block : Bytes) : State :=
  let r := (List.zipWith (· + ·) roundConstants (schedule block)).foldl round s
  ⟨s.a + r.a, s.b + r.b, s.c + r.c, s.d + r.d, s.e + r.e, s.f + r.f, s.g + r.g, s.h + r.h⟩

/-- The words of the state in order. -/
def output (s : State) : Bytes :=
  [s.a, s.b, s.c, s.d, s.e, s.f, s.g, s.h].flatMap bytesOfWord

@[simp] theorem length_output (s : State) : (output s).length = 32 := rfl

end Sha256

/-- SHA-256 as a block hash. -/
def Sha256 : BlockHash where
  State := Sha256.State
  blockSize := 64
  lengthSize := 8
  lengthBytes := Bytes.ofNat 8
  start := Sha256.start
  compress := Sha256.compress
  output := Sha256.output

/-- The SHA-256 hash of a message. -/
def sha256 (m : Bytes) : Bytes :=
  Sha256.hash m

@[simp] theorem length_sha256 (m : Bytes) : (sha256 m).length = 32 :=
  Sha256.length_output _

/-- SHA-256 applied twice. -/
def doubleSha256 (m : Bytes) : Bytes :=
  sha256 (sha256 m)

@[simp] theorem length_doubleSha256 (m : Bytes) : (doubleSha256 m).length = 32 :=
  length_sha256 _

end SeedWallet
