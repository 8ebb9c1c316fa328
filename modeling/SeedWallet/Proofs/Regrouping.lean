import SeedWallet.Address.Segwit

/-!
# Bytes as five-digit symbols

A witness program is written with symbols of five binary digits, so its digits are cut at other places
and the last symbol is filled up with zeros. The reader accepts exactly what the writer writes: it
refuses a symbol too many and digits other than zeros in the fill.

- `Symbol.bits_ofBits`: symbols made of digits spell these digits and the fill.
- `Symbol.length_ofBits`: how many symbols digits make.
- `Segwit.readProgram_eq_ok_iff`: symbols spell a program exactly if they are the program's symbols.
-/

namespace SeedWallet

/-- Filling up every group to the full width is filling up the whole list. -/
theorem map_fill_groups (w k : Nat) (ds : List Bool) (h : ds.length ≤ w * k) :
    (groups w k ds).map (fun g => g ++ List.replicate (w - g.length) false)
      = groups w k (ds ++ List.replicate (w * k - ds.length) false) := by
  induction k generalizing ds with
  | zero => rfl
  | succ k ih =>
    rw [Nat.mul_succ] at h
    have hdrop : (ds.drop w).length ≤ w * k := by rw [List.length_drop]; omega
    have hfirst : w - (ds.take w).length = w - ds.length := by rw [List.length_take]; omega
    have hmin : min (w - ds.length) (w * k + w - ds.length) = w - ds.length := by omega
    have hrest : w * k + w - ds.length - (w - ds.length) = w * k - (ds.length - w) := by omega
    rw [groups, groups, List.map_cons, ih _ hdrop, Nat.mul_succ, List.take_append,
      List.drop_append, List.take_replicate, List.drop_replicate, List.length_drop, hfirst, hmin,
      hrest]

namespace Symbol

@[simp] theorem length_bits (ss : List Symbol) : (bits ss).length = 5 * ss.length := by
  induction ss with
  | nil => rfl
  | cons s ss ih =>
    simp only [bits] at ih
    simp only [bits, List.flatMap_cons, List.length_append, Bits.length_ofNat, List.length_cons, ih]
    omega

@[simp] theorem length_ofBits (ds : List Bool) : (ofBits ds).length = (ds.length + 4) / 5 := by
  simp [ofBits, allGroups]

/-- Five digits are those of the symbol that they make. -/
theorem ofNat_toNat_ofNat {g : List Bool} (h : g.length = 5) :
    Bits.ofNat 5 (BitVec.ofNat 5 (Bits.toNat g)).toNat = g := by
  have hlt : Bits.toNat g < 2 ^ 5 := by
    have := Bits.toNat_lt g
    rwa [h] at this
  have hself := Bits.ofNat_toNat g
  rw [h] at hself
  rw [BitVec.toNat_ofNat, Nat.mod_eq_of_lt hlt, hself]

/-- The symbols made of digits spell them, and zeros up to the end of the last symbol. -/
theorem bits_ofBits (ds : List Bool) :
    bits (ofBits ds) = ds ++ List.replicate (5 * ((ds.length + 4) / 5) - ds.length) false := by
  have hlen : ds.length ≤ 5 * ((ds.length + 4) / 5) := by omega
  have hmap : ofBits ds = (groups 5 ((ds.length + 4) / 5)
      (ds ++ List.replicate (5 * ((ds.length + 4) / 5) - ds.length) false)).map
        fun g => BitVec.ofNat 5 (Bits.toNat g) := by
    rw [← map_fill_groups 5 _ ds hlen, List.map_map]
    rfl
  generalize hfull : ds ++ List.replicate (5 * ((ds.length + 4) / 5) - ds.length) false = full
    at hmap ⊢
  have hfull5 : full.length = 5 * ((ds.length + 4) / 5) := by
    rw [← hfull, List.length_append, List.length_replicate]
    omega
  rw [hmap, bits, List.flatMap_def, List.map_map]
  have hgroups : ((groups 5 ((ds.length + 4) / 5) full).map
      ((fun s : Symbol => Bits.ofNat 5 s.toNat) ∘ fun g => BitVec.ofNat 5 (Bits.toNat g)))
        = groups 5 ((ds.length + 4) / 5) full := by
    refine (List.map_congr_left fun g hg => ?_).trans (List.map_id _)
    exact ofNat_toNat_ofNat (length_of_mem_groups (by omega) hg)
  rw [hgroups, flatten_groups, List.take_of_length_le (by omega)]

/-- Symbols are determined by their digits. -/
theorem bits_injective {ss ts : List Symbol} (h : bits ss = bits ts) : ss = ts := by
  induction ss generalizing ts with
  | nil =>
    have hlen := congrArg List.length h
    rw [length_bits, length_bits, List.length_nil] at hlen
    exact (List.length_eq_zero_iff.mp (by omega)).symm
  | cons s ss ih =>
    cases ts with
    | nil =>
      have hlen := congrArg List.length h
      rw [length_bits, length_bits, List.length_cons, List.length_nil] at hlen
      omega
    | cons t ts =>
      simp only [bits, List.flatMap_cons] at h
      obtain ⟨hhead, htail⟩ := List.append_inj h (by simp)
      have hnum := congrArg Bits.toNat hhead
      rw [Bits.toNat_ofNat, Bits.toNat_ofNat, Nat.mod_eq_of_lt s.isLt, Nat.mod_eq_of_lt t.isLt]
        at hnum
      rw [BitVec.eq_of_toNat_eq hnum, ih htail]

end Symbol

namespace Segwit

/-- Digits of the symbols of a program: the program's, and the fill. -/
theorem bits_ofBits_bits (program : Bytes) :
    Symbol.bits (Symbol.ofBits (Bytes.bits program)) = Bytes.bits program ++
      List.replicate (5 * ((8 * program.length + 4) / 5) - 8 * program.length) false := by
  rw [Symbol.bits_ofBits, Bytes.length_bits]

/-- The symbols of a program spell it: the fill is short of a symbol and holds zeros. -/
theorem readProgram_ofBits (program : Bytes) :
    readProgram (Symbol.ofBits (Bytes.bits program)) = .ok program := by
  have hpad : 5 * ((8 * program.length + 4) / 5) - 8 * program.length < 5 := by omega
  unfold readProgram
  rw [bits_ofBits_bits]
  generalize 5 * ((8 * program.length + 4) / 5) - 8 * program.length = pad at hpad
  have hdrop : (Bytes.bits program ++ List.replicate pad false).drop
      ((Bytes.bits program ++ List.replicate pad false).length / 8 * 8)
        = List.replicate pad false := by
    refine List.drop_left' ?_
    rw [List.length_append, Bytes.length_bits, List.length_replicate]
    omega
  dsimp only
  rw [hdrop, if_pos ⟨by simpa using hpad, by simp⟩,
    Bytes.ofBits_bits_append _ _ (by rw [List.length_replicate]; omega)]

/-- Symbols that spell a program are its symbols: there is no surplus symbol, since less than one is
left over, and nothing but zeros is left over. -/
theorem eq_ofBits_of_readProgram {symbols : List Symbol} {program : Bytes}
    (h : readProgram symbols = .ok program) : symbols = Symbol.ofBits (Bytes.bits program) := by
  unfold readProgram at h
  dsimp only at h
  split at h
  · rename_i hrest
    cases h
    obtain ⟨hshort, hzeros⟩ := hrest
    -- compare digits: what is left over after whole bytes is the fill
    apply Symbol.bits_injective
    rw [bits_ofBits_bits, Bytes.bits_ofBits, Bytes.length_ofBits]
    generalize hds : Symbol.bits symbols = ds at *
    have hlen : ds.length = 5 * symbols.length := by rw [← hds, Symbol.length_bits]
    rw [List.length_drop] at hshort
    have hsize : 5 * ((8 * (ds.length / 8) + 4) / 5) - 8 * (ds.length / 8)
        = ds.length - ds.length / 8 * 8 := by omega
    have hleft : ds.drop (ds.length / 8 * 8)
        = List.replicate (ds.length - ds.length / 8 * 8) false := by
      refine List.eq_replicate_iff.mpr ⟨List.length_drop, fun d hd => ?_⟩
      simpa using List.all_eq_true.mp hzeros d hd
    rw [hsize, ← hleft, List.take_append_drop]
  · cases h

/-- Symbols that spell no program are filled up wrongly. -/
theorem fault_of_readProgram {symbols : List Symbol} {fault : Fault}
    (h : readProgram symbols = .error fault) : fault = .padding := by
  unfold readProgram at h
  dsimp only at h
  split at h
  · cases h
  · cases h
    rfl

/-- Symbols spell a program exactly if they are the program's symbols. -/
theorem readProgram_eq_ok_iff (symbols : List Symbol) (program : Bytes) :
    readProgram symbols = .ok program ↔ symbols = Symbol.ofBits (Bytes.bits program) :=
  ⟨eq_ofBits_of_readProgram, fun h => h ▸ readProgram_ofBits program⟩

end Segwit

end SeedWallet
