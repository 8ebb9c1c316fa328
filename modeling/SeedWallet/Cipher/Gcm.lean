import SeedWallet.Cipher.Aes

/-!
# AES-256 in Galois/Counter mode

A body is covered with a key stream and followed by a tag of sixteen bytes that depends on every bit
of it. There is no associated data.

- `Gcm.cover`: exclusive or with the key stream; twice is the identity (`cover_cover`), since the
  stream is as long as it takes.
- `Gcm.tag`: the tag of a covered body.
- `Gcm.seal?`, `Gcm.open?`: the covered body with its tag, and back; `open?` undoes `seal?`
  (`open?_of_seal?`).
-/

namespace SeedWallet.Gcm

/-- Bytes of the tag. -/
def tagSize : Nat := 16

/-- The longest body, for which the counter does not repeat. -/
def maxBody : Nat := 2 ^ 36 - 32

/-! ## The key stream -/

/-- The block that the counter and the nonce make. -/
def counterBlock (nonce : Bytes) (counter : Nat) : Bytes :=
  nonce ++ Bytes.ofNat 4 counter

/-- A block of the key stream. -/
def streamBlock (keys : List Bytes) (nonce : Bytes) (counter : Nat) : Bytes :=
  Aes.encryptBlock keys (counterBlock nonce counter)

/-- The first blocks of the key stream, which begin with counter 2. -/
def stream (keys : List Bytes) (nonce : Bytes) (blocks : Nat) : Bytes :=
  (List.range blocks).flatMap fun i => streamBlock keys nonce (i + 2)

/-- The body under the key stream. -/
def cover (keys : List Bytes) (nonce body : Bytes) : Bytes :=
  Bytes.xor body (stream keys nonce ((body.length + 15) / 16))

section

variable {keys : List Bytes} {nonce : Bytes} (hkeys : ∀ key ∈ keys, key.length = 16)
  (hnonce : nonce.length = 12)

include hkeys hnonce

theorem length_streamBlock (counter : Nat) : (streamBlock keys nonce counter).length = 16 := by
  refine Aes.length_encryptBlock hkeys ?_
  rw [counterBlock, List.length_append, hnonce, Bytes.length_ofNat]

theorem length_stream (blocks : Nat) : (stream keys nonce blocks).length = 16 * blocks := by
  simp [stream, List.length_flatMap, length_streamBlock hkeys hnonce, List.map_const', Nat.mul_comm]

theorem length_cover (body : Bytes) : (cover keys nonce body).length = body.length := by
  rw [cover, Bytes.length_xor, length_stream hkeys hnonce]
  omega

/-- Covering twice uncovers. -/
theorem cover_cover (body : Bytes) : cover keys nonce (cover keys nonce body) = body := by
  rw [cover, length_cover hkeys hnonce, cover, Bytes.xor_xor_cancel]
  rw [length_stream hkeys hnonce]
  omega

end

/-! ## The tag -/

/-- One binary digit of the product of two blocks as polynomials over two elements, modulo
`x¹²⁸ + x⁷ + x² + x + 1`; the most significant digit of a block is the constant coefficient. -/
def hashStep (s : BitVec 128 × BitVec 128) (bit : Bool) : BitVec 128 × BitVec 128 :=
  let z := if bit then s.1 ^^^ s.2 else s.1
  let v := if s.2.getLsbD 0 then (s.2 >>> 1) ^^^ (0xe1#128 <<< 120) else s.2 >>> 1
  (z, v)

/-- The product of two blocks. -/
def hashMul (x h : BitVec 128) : BitVec 128 :=
  ((Bits.ofNat 128 x.toNat).foldl hashStep (0, h)).1

/-- The blocks of the bytes, the last one filled up with zeros. -/
def hashBlocks (bs : Bytes) : List (BitVec 128) :=
  (allGroups 16 bs).map fun g =>
    BitVec.ofNat 128 (Bytes.toNat (g ++ List.replicate (16 - g.length) 0))

/-- The hash of the covered body and its length under the hash key. -/
def ghash (h : BitVec 128) (covered : Bytes) : BitVec 128 :=
  (hashBlocks covered ++ [BitVec.ofNat 128 (8 * covered.length)]).foldl
    (fun y x => hashMul (y ^^^ x) h) 0

/-- The tag of a covered body. -/
def tag (keys : List Bytes) (nonce covered : Bytes) : Bytes :=
  let h := BitVec.ofNat 128 (Bytes.toNat (Aes.encryptBlock keys (List.replicate 16 0)))
  Bytes.xor (Bytes.ofNat 16 (ghash h covered).toNat) (streamBlock keys nonce 1)

theorem length_tag {keys : List Bytes} {nonce : Bytes} (hkeys : ∀ key ∈ keys, key.length = 16)
    (hnonce : nonce.length = 12) (covered : Bytes) : (tag keys nonce covered).length = tagSize := by
  rw [tag, Bytes.length_xor, Bytes.length_ofNat, length_streamBlock hkeys hnonce]
  rfl

/-! ## Sealing and opening -/

/-- The covered body and its tag, unless the body is too long. -/
def seal? (key nonce body : Bytes) : Option Bytes :=
  if body.length ≤ maxBody then
    let keys := Aes.roundKeys key
    let covered := cover keys nonce body
    some (covered ++ tag keys nonce covered)
  else none

/-- The body of a covered body whose tag fits. -/
def open? (key nonce sealed : Bytes) : Option Bytes :=
  if sealed.length < tagSize ∨ maxBody < sealed.length - tagSize then none
  else
    let keys := Aes.roundKeys key
    let covered := sealed.take (sealed.length - tagSize)
    if tag keys nonce covered = sealed.drop (sealed.length - tagSize) then
      some (cover keys nonce covered)
    else none

section

variable {key nonce body sealed : Bytes} (hkey : key.length = 32) (hnonce : nonce.length = 12)

include hkey hnonce

/-- What is sealed is longer by the tag. -/
theorem length_of_seal? (h : seal? key nonce body = some sealed) :
    sealed.length = body.length + tagSize := by
  have hkeys := Aes.length_of_mem_roundKeys hkey
  unfold seal? at h
  split at h
  · cases h
    rw [List.length_append, length_cover hkeys hnonce, length_tag hkeys hnonce]
  · cases h

/-- What was sealed is opened again. -/
theorem open?_of_seal? (h : seal? key nonce body = some sealed) :
    open? key nonce sealed = some body := by
  have hkeys := Aes.length_of_mem_roundKeys hkey
  have hlen := length_of_seal? hkey hnonce h
  unfold seal? at h
  split at h
  · rename_i hmax
    cases h
    have hcut : ∀ t : Bytes, t.length = tagSize →
        (cover (Aes.roundKeys key) nonce body ++ t).length - tagSize =
          (cover (Aes.roundKeys key) nonce body).length := by
      intro t ht; simp [ht]
    rw [open?, if_neg (by rw [hlen]; omega), hcut _ (length_tag hkeys hnonce _), List.take_left,
      List.drop_left]
    simp only [if_true, cover_cover hkeys hnonce]
  · cases h

/-- Only what was sealed is opened. -/
theorem seal?_of_open? (h : open? key nonce sealed = some body) :
    seal? key nonce body = some sealed := by
  have hkeys := Aes.length_of_mem_roundKeys hkey
  unfold open? at h
  split at h
  · cases h
  · rename_i hlen
    simp only at h
    split at h
    · rename_i htag
      simp only [Option.some.injEq] at h
      subst h
      rw [seal?, length_cover hkeys hnonce, List.length_take, if_pos (by omega)]
      simp only [cover_cover hkeys hnonce, htag, List.take_append_drop]
    · cases h

end

end SeedWallet.Gcm
