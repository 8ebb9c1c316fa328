/-!
# Cutting text at a character

- `splitOn sep cs`: the pieces between the separators, one more than there are separators.
- `joinWith sep ps`: the pieces with a separator between each two; the two are inverse on pieces that
  do not hold the separator (`splitOn_joinWith`, `joinWith_splitOn`).
-/

namespace SeedWallet

/-- The pieces between the separators; some may be empty. -/
def splitOn (sep : Char) : List Char → List (List Char)
  | [] => [[]]
  | c :: cs =>
    match splitOn sep cs with
    | [] => [[c]]
    | p :: ps => if c = sep then [] :: p :: ps else (c :: p) :: ps

/-- The pieces with the separator between each two. -/
def joinWith (sep : Char) : List (List Char) → List Char
  | [] => []
  | [p] => p
  | p :: ps => p ++ sep :: joinWith sep ps

theorem splitOn_ne_nil (sep : Char) (cs : List Char) : splitOn sep cs ≠ [] := by
  cases cs with
  | nil => simp [splitOn]
  | cons c cs => simp only [splitOn]; split <;> (try split) <;> simp

/-- The pieces of a text make up the text. -/
theorem joinWith_splitOn (sep : Char) (cs : List Char) : joinWith sep (splitOn sep cs) = cs := by
  induction cs with
  | nil => rfl
  | cons c cs ih =>
    rw [splitOn]
    split
    · rename_i h; exact absurd h (splitOn_ne_nil sep cs)
    · rename_i p ps h
      rw [h] at ih
      split
      · rename_i hc; rw [← ih, hc]; rfl
      · rw [← ih]; cases ps <;> rfl

/-- A piece without the separator is cut off as it stands. -/
theorem splitOn_append {sep : Char} {p : List Char} (h : sep ∉ p) (cs : List Char) :
    splitOn sep (p ++ sep :: cs) = p :: splitOn sep cs := by
  induction p with
  | nil =>
    rw [List.nil_append, splitOn]
    split
    · rename_i hs; exact absurd hs (splitOn_ne_nil sep cs)
    · rename_i hs; simp [hs]
  | cons c p ih =>
    rw [List.mem_cons, not_or] at h
    rw [List.cons_append, splitOn, ih h.2]
    simp [Ne.symm h.1]

/-- A text without the separator is one piece. -/
theorem splitOn_of_not_mem {sep : Char} {p : List Char} (h : sep ∉ p) : splitOn sep p = [p] := by
  induction p with
  | nil => rfl
  | cons c p ih =>
    rw [List.mem_cons, not_or] at h
    rw [splitOn, ih h.2]
    simp [Ne.symm h.1]

/-- Pieces without the separator are found again. -/
theorem splitOn_joinWith {sep : Char} {ps : List (List Char)} (hne : ps ≠ [])
    (h : ∀ p ∈ ps, sep ∉ p) : splitOn sep (joinWith sep ps) = ps := by
  induction ps with
  | nil => exact absurd rfl hne
  | cons p ps ih =>
    cases ps with
    | nil => exact splitOn_of_not_mem (h p (by simp))
    | cons q qs =>
      rw [joinWith, splitOn_append (h p (by simp)), ih (by simp) fun x hx => h x (by simp_all)]
      simp

end SeedWallet
