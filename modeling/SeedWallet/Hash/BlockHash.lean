import SeedWallet.Bytes

/-!
# Hash functions that work through blocks

A message is padded to whole blocks, the blocks are compressed into a state one after the other,
and the last state is written out.

- `BlockHash`: one such function, given by its compression step and the shape of its padding.
- `BlockHash.absorb s m`: the state after the whole blocks of `m`.
- `BlockHash.finish s absorbed tail`: the hash of a message of which `absorbed` bytes, a whole number
  of blocks, are already in the state `s`; a state kept for a fixed beginning is used again by every
  message that begins so.
- `BlockHash.hash m`: the hash of a whole message.
-/

namespace SeedWallet

/-- A hash function over padded blocks. -/
structure BlockHash where
  /-- What is carried from block to block. -/
  State : Type
  /-- Bytes in a block. -/
  blockSize : Nat
  /-- Bytes of the message length at the end of the last block. -/
  lengthSize : Nat
  /-- How the message length is written there, in bits. -/
  lengthBytes : Nat → Bytes
  /-- The state before the first block. -/
  start : State
  /-- Takes one block into the state. -/
  compress : State → Bytes → State
  /-- Writes a state out. -/
  output : State → Bytes

namespace BlockHash

/-- What follows a message of `n` bytes: one set bit, zeros to fill the block, and its length. -/
def padding (H : BlockHash) (n : Nat) : Bytes :=
  let used := (n + 1 + H.lengthSize) % H.blockSize
  0x80 :: List.replicate ((H.blockSize - used) % H.blockSize) 0 ++ H.lengthBytes (8 * n)

/-- Takes the whole blocks of `m` into the state. -/
def absorb (H : BlockHash) (s : H.State) (m : Bytes) : H.State :=
  (fullGroups H.blockSize m).foldl H.compress s

/-- The hash of a message whose first `absorbed` bytes are in `s` and whose rest is `tail`. -/
def finish (H : BlockHash) (s : H.State) (absorbed : Nat) (tail : Bytes) : Bytes :=
  H.output (H.absorb s (tail ++ H.padding (absorbed + tail.length)))

/-- The hash of a message. -/
def hash (H : BlockHash) (m : Bytes) : Bytes :=
  H.finish H.start 0 m

end BlockHash

end SeedWallet
