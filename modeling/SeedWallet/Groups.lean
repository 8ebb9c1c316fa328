/-!
# Cutting a list into groups of equal size

Block ciphers, hash functions and the re-spelling of bytes in another digit size all read their
input a fixed number of places at a time.

- `groups w k xs`: the first `k` groups of `w` places of `xs`.
- `fullGroups w xs`: as many groups as `xs` fills, the remainder left out.
- `allGroups w xs`: the same with the remainder, if there is one, as a last shorter group.
-/

namespace SeedWallet

/-- The first `k` groups of `w` places. The count is the recursion, so no width needs to be ruled
out. -/
def groups {α : Type} (w : Nat) : Nat → List α → List (List α)
  | 0, _ => []
  | k + 1, xs => xs.take w :: groups w k (xs.drop w)

/-- The groups that `xs` fills completely. -/
def fullGroups {α : Type} (w : Nat) (xs : List α) : List (List α) :=
  groups w (xs.length / w) xs

/-- All of `xs` in groups of `w`, the last one shorter when `w` does not divide the length. -/
def allGroups {α : Type} (w : Nat) (xs : List α) : List (List α) :=
  groups w ((xs.length + w - 1) / w) xs

@[simp] theorem length_groups {α : Type} (w k : Nat) (xs : List α) :
    (groups w k xs).length = k := by
  induction k generalizing xs with
  | zero => rfl
  | succ k ih => simp [groups, ih]

/-- Every group has the full width when the list is long enough. -/
theorem length_of_mem_groups {α : Type} {w k : Nat} {xs g : List α} (hx : k * w ≤ xs.length)
    (hg : g ∈ groups w k xs) : g.length = w := by
  induction k generalizing xs with
  | zero => simp [groups] at hg
  | succ k ih =>
    rw [Nat.succ_mul] at hx
    simp only [groups, List.mem_cons] at hg
    rcases hg with rfl | hg
    · simp; omega
    · exact ih (by simp; omega) hg

/-- Joining the groups gives back the places they were cut from. -/
theorem flatten_groups {α : Type} (w k : Nat) (xs : List α) :
    (groups w k xs).flatten = xs.take (k * w) := by
  induction k generalizing xs with
  | zero => simp [groups]
  | succ k ih =>
    rw [groups, List.flatten_cons, ih, Nat.succ_mul, Nat.add_comm, List.take_add]

/-- Joining groups of one width and cutting again changes nothing. -/
theorem groups_flatten {α : Type} (w : Nat) (gs : List (List α)) (rest : List α)
    (h : ∀ g ∈ gs, g.length = w) : groups w gs.length (gs.flatten ++ rest) = gs := by
  induction gs with
  | nil => rfl
  | cons g gs ih =>
    have hg : g.length = w := h g (by simp)
    have ih' := ih fun x hx => h x (by simp [hx])
    simp only [List.length_cons, groups, List.flatten_cons, List.append_assoc]
    rw [List.take_append_of_le_length (by omega), List.take_of_length_le (by omega),
      List.drop_append_of_le_length (by omega), List.drop_of_length_le (by omega),
      List.nil_append, ih']

end SeedWallet
