import SeedWallet.Address.Bech32

/-!
# The base 32 checksum as a linear map

A step of the remainder is linear in exclusive or, in the remainder and in the symbol alike. What six
symbols do to a remainder is therefore what six zeros do to it, combined with what the symbols do to
zero, and that is just the symbols themselves: each is still in its place when the sixth one comes in.
So for every beginning there is one closing of six symbols, and `Bech32.checksum` is it.

- `Bech32.step_xor`, `Bech32.absorb_xor`: linearity of a step and of a run of steps.
- `Bech32.parts`: the six symbols that a remainder consists of.
- `Bech32.parts_absorb_zero`: six symbols on a zero remainder are the remainder.
- `Bech32.verifies_append_iff`: a closing verifies exactly if it is the checksum.
-/

namespace SeedWallet.Bech32

/-! ## Linearity -/

/-- One bit's share of what comes back. -/
theorem ite_xor (p q : Bool) (g : BitVec 30) :
    (if p ^^ q then g else 0) = (if p then g else 0) ^^^ (if q then g else 0) := by
  cases p <;> cases q <;> simp

theorem feedback_xor (a b : Symbol) : feedback (a ^^^ b) = feedback a ^^^ feedback b := by
  simp only [feedback, BitVec.getLsbD_xor, ite_xor]
  ac_rfl

/-- Nothing comes back of a remainder whose highest symbol is zero. -/
theorem step_of_top_eq_zero {r : BitVec 30} (h : r.extractLsb' 25 5 = 0) (s : Symbol) :
    step r s = r <<< 5 ^^^ s.setWidth 30 := by
  have hzero : feedback 0 = 0#30 := by decide
  rw [step, h, hzero, BitVec.xor_zero]

/-- A step is linear in the remainder and the symbol together. -/
theorem step_xor (r r' : BitVec 30) (s s' : Symbol) :
    step (r ^^^ r') (s ^^^ s') = step r s ^^^ step r' s' := by
  rw [step, step, step, BitVec.shiftLeft_xor_distrib, BitVec.setWidth_xor, BitVec.extractLsb'_xor,
    feedback_xor]
  ac_rfl

/-- The remainder after further symbols. -/
def absorb (r : BitVec 30) (ss : List Symbol) : BitVec 30 :=
  ss.foldl step r

@[simp] theorem absorb_nil (r : BitVec 30) : absorb r [] = r := rfl

@[simp] theorem absorb_cons (r : BitVec 30) (s : Symbol) (ss : List Symbol) :
    absorb r (s :: ss) = absorb (step r s) ss := rfl

theorem residue_append (ss ts : List Symbol) : residue (ss ++ ts) = absorb (residue ss) ts :=
  List.foldl_append ..

/-- A run of steps is linear in the remainder and the symbols together. -/
theorem absorb_xor (r r' : BitVec 30) {ss ts : List Symbol} (h : ss.length = ts.length) :
    absorb (r ^^^ r') (List.zipWith (· ^^^ ·) ss ts) = absorb r ss ^^^ absorb r' ts := by
  induction ss generalizing r r' ts with
  | nil =>
    obtain rfl : ts = [] := List.length_eq_zero_iff.mp h.symm
    rfl
  | cons s ss ih =>
    cases ts with
    | nil => cases h
    | cons t ts =>
      rw [List.zipWith_cons_cons, absorb_cons, absorb_cons, absorb_cons, step_xor]
      exact ih (step r s) (step r' t) (Nat.succ.inj h)

theorem zipWith_xor_replicate_zero (ss : List Symbol) :
    List.zipWith (· ^^^ ·) (List.replicate ss.length 0) ss = ss := by
  induction ss with
  | nil => rfl
  | cons s ss ih =>
    rw [List.length_cons, List.replicate_succ, List.zipWith_cons_cons, ih]
    simp

/-- Symbols do to a remainder what zeros do to it, combined with what they do to zero. -/
theorem absorb_eq_zeros_xor (r : BitVec 30) (ss : List Symbol) :
    absorb r ss = absorb r (List.replicate ss.length 0) ^^^ absorb 0 ss := by
  have hr : r ^^^ 0 = r := BitVec.xor_zero
  rw [← absorb_xor r 0 (by simp), zipWith_xor_replicate_zero, hr]

/-! ## A remainder is six symbols -/

/-- The six symbols of a remainder, the highest one first. -/
def parts (r : BitVec 30) : List Symbol :=
  [25, 20, 15, 10, 5, 0].map fun i => r.extractLsb' i 5

/-- Remainders with the same symbols are equal. -/
theorem parts_injective {r r' : BitVec 30} (h : parts r = parts r') : r = r' := by
  simp only [parts, List.map_cons, List.map_nil, List.cons.injEq, and_true] at h
  obtain ⟨h25, h20, h15, h10, h5, h0⟩ := h
  -- a digit of the remainder is a digit of the symbol that starts at `i`
  have digit : ∀ i, r.extractLsb' i 5 = r'.extractLsb' i 5 →
      ∀ j < 5, r.getLsbD (i + j) = r'.getLsbD (i + j) := by
    intro i hi j hj
    have := congrArg (fun s => s.getLsbD j) hi
    simpa [BitVec.getLsbD_extractLsb', hj] using this
  apply BitVec.eq_of_getLsbD_eq
  intro i hi
  obtain ⟨q, j, hj, rfl⟩ : ∃ q j, j < 5 ∧ i = 5 * q + j :=
    ⟨i / 5, i % 5, Nat.mod_lt _ (by decide), (Nat.div_add_mod i 5).symm⟩
  have hq : q = 0 ∨ q = 1 ∨ q = 2 ∨ q = 3 ∨ q = 4 ∨ q = 5 := by omega
  rcases hq with rfl | rfl | rfl | rfl | rfl | rfl
  · exact digit 0 h0 j hj
  · exact digit 5 h5 j hj
  · exact digit 10 h10 j hj
  · exact digit 15 h15 j hj
  · exact digit 20 h20 j hj
  · exact digit 25 h25 j hj

/-- As long as the highest symbol is zero, a step only moves the symbols up and takes in a new one. -/
theorem parts_step {r : BitVec 30} {ss : List Symbol} (h : parts r = 0 :: ss) (s : Symbol) :
    parts (step r s) = ss ++ [s] := by
  have hext : ∀ i : Nat, 5 ≤ i → i ≤ 25 →
      (r <<< 5 ^^^ s.setWidth 30).extractLsb' i 5 = r.extractLsb' (i - 5) 5 := by
    intro i h5 h25
    apply BitVec.eq_of_getLsbD_eq
    intro j hj
    have hlow : ¬ i + j < 5 := by omega
    have hsub : i + j - 5 = i - 5 + j := by omega
    have hs : s.getLsbD (i + j) = false := BitVec.getLsbD_of_ge s (i + j) (by omega)
    rw [BitVec.getLsbD_extractLsb', BitVec.getLsbD_extractLsb', BitVec.getLsbD_xor,
      BitVec.getLsbD_shiftLeft, BitVec.getLsbD_setWidth, hs, hsub]
    simp only [hj, hlow, show i + j < 30 from by omega, decide_true, decide_false, Bool.true_and,
      Bool.not_false, Bool.and_false, Bool.xor_false]
  have hlast : (r <<< 5 ^^^ s.setWidth 30).extractLsb' 0 5 = s := by
    apply BitVec.eq_of_getLsbD_eq
    intro j hj
    simp [hj, show j < 30 from by omega]
  simp only [parts, List.map_cons, List.map_nil, List.cons.injEq] at h
  obtain ⟨htop, rfl⟩ := h
  rw [step_of_top_eq_zero htop]
  simp only [parts, List.map_cons, List.map_nil, List.cons_append, List.nil_append]
  rw [hext 25 (by decide) (by decide), hext 20 (by decide) (by decide),
    hext 15 (by decide) (by decide), hext 10 (by decide) (by decide),
    hext 5 (by decide) (by decide), hlast]

/-- On a zero remainder, up to six symbols simply take their places. -/
theorem parts_absorb_zero_append {ss : List Symbol} (h : ss.length ≤ 6) :
    parts (absorb 0 ss) = List.replicate (6 - ss.length) 0 ++ ss := by
  -- on any remainder that still has that many zeros in front
  suffices ∀ (ss : List Symbol) (r : BitVec 30) (zs : List Symbol) (n : Nat),
      parts r = List.replicate n 0 ++ zs → ss.length ≤ n →
        parts (absorb r ss) = List.replicate (n - ss.length) 0 ++ (zs ++ ss) by
    have h0 : parts 0 = List.replicate 6 0 ++ [] := by decide
    simpa using this ss 0 [] 6 h0 h
  intro ss
  induction ss with
  | nil => intro r zs n hr _; simpa using hr
  | cons s ss ih =>
    intro r zs n hr hn
    rw [List.length_cons] at hn
    obtain ⟨n, rfl⟩ : ∃ m, n = m + 1 := ⟨n - 1, by omega⟩
    rw [List.replicate_succ, List.cons_append] at hr
    have hstep : parts (step r s) = List.replicate n 0 ++ (zs ++ [s]) := by
      rw [parts_step hr, List.append_assoc]
    rw [absorb_cons, ih (step r s) (zs ++ [s]) n hstep (by omega), List.length_cons,
      Nat.add_sub_add_right, List.append_assoc, List.singleton_append]

/-- Six symbols on a zero remainder are the remainder. -/
theorem parts_absorb_zero {ss : List Symbol} (h : ss.length = 6) : parts (absorb 0 ss) = ss := by
  rw [parts_absorb_zero_append (by omega), h]
  rfl

/-! ## The closing symbols -/

/-- Six symbols close a sequence exactly if they are its checksum. -/
theorem verifies_append_iff (variant : Variant) (hrp : List Char) (data : List Symbol)
    {closing : List Symbol} (h : closing.length = 6) :
    verifies variant hrp (data ++ closing) = true ↔ closing = checksum variant hrp data := by
  have hzeros : absorb (residue (hrpSymbols hrp ++ data)) (List.replicate 6 0)
      = residue (hrpSymbols hrp ++ data ++ List.replicate 6 0) :=
    (residue_append _ _).symm
  have hsum : checksum variant hrp data
      = parts (residue (hrpSymbols hrp ++ data ++ List.replicate 6 0) ^^^ variant.residue) := rfl
  rw [verifies, decide_eq_true_eq, ← List.append_assoc, residue_append, absorb_eq_zeros_xor, h,
    hzeros, hsum]
  constructor
  · intro hres
    rw [← hres, ← BitVec.xor_assoc, BitVec.xor_self, BitVec.zero_xor, parts_absorb_zero h]
  · -- the closing has the symbols of its own sum, so its sum cancels
    intro hclosing
    have habsorb := parts_absorb_zero h
    conv at habsorb => rhs; rw [hclosing]
    rw [parts_injective habsorb, ← BitVec.xor_assoc, BitVec.xor_self, BitVec.zero_xor]

/-- The checksum closes the sequence. -/
theorem verifies_checksum (variant : Variant) (hrp : List Char) (data : List Symbol) :
    verifies variant hrp (data ++ checksum variant hrp data) = true :=
  (verifies_append_iff variant hrp data (length_checksum variant hrp data)).mpr rfl

end SeedWallet.Bech32
