import SeedWallet.Proofs.SegwitAddress

/-!
# Burst errors in segwit addresses

A burst error changes characters within a stretch of six. The checksum finds every one: as long as the
symbols of a burst come in, a remainder of zero just takes them up, and whatever comes after the burst
cannot make two different remainders equal again. Everything else that a burst can hit is counted as
symbols too, or is fixed by the length of the text: the length tells how long the human-readable part
is, and with it where the separator and the version stand.

- `DiffersWithin`: two lists differ only within some number of consecutive places.
- `Bech32.eq_of_residue_eq`: sequences with one remainder do not differ by a burst.
- `Address.decodeSegwit_burst`: what follows for addresses.
-/

namespace SeedWallet

/-- All places at which the lists differ are among `n` consecutive ones. -/
def DiffersWithin {α : Type} (n : Nat) (xs ys : List α) : Prop :=
  ∃ start, ∀ i, xs[i]? ≠ ys[i]? → start ≤ i ∧ i < start + n

/-- Lists of one length that differ within `n` places have a common beginning and a common end around
at most `n` places. -/
theorem DiffersWithin.split {α : Type} {n : Nat} {xs ys : List α} (h : DiffersWithin n xs ys)
    (hlen : xs.length = ys.length) :
    ∃ front us vs back, xs = front ++ (us ++ back) ∧ ys = front ++ (vs ++ back) ∧
      us.length = vs.length ∧ us.length ≤ n := by
  obtain ⟨start, hstart⟩ := h
  have hsame : ∀ i, i < start ∨ start + n ≤ i → xs[i]? = ys[i]? := by
    intro i hi
    by_contra hne
    have := hstart i hne
    omega
  have hfront : xs.take start = ys.take start := by
    apply List.ext_getElem?
    intro i
    rw [List.getElem?_take, List.getElem?_take]
    by_cases hi : i < start
    · rw [if_pos hi, if_pos hi]
      exact hsame i (.inl hi)
    · rw [if_neg hi, if_neg hi]
  have hback : (xs.drop start).drop n = (ys.drop start).drop n := by
    apply List.ext_getElem?
    intro i
    rw [List.drop_drop, List.drop_drop, List.getElem?_drop, List.getElem?_drop]
    exact hsame _ (.inr (by omega))
  refine ⟨xs.take start, (xs.drop start).take n, (ys.drop start).take n, (xs.drop start).drop n,
    ?_, ?_, ?_, ?_⟩
  · rw [List.take_append_drop, List.take_append_drop]
  · rw [hback, hfront, List.take_append_drop, List.take_append_drop]
  · rw [List.length_take, List.length_take, List.length_drop, List.length_drop, hlen]
  · exact List.length_take_le n _

/-- A common beginning makes no difference. -/
theorem differsWithin_append_left_iff {α : Type} {n : Nat} (front xs ys : List α) :
    DiffersWithin n (front ++ xs) (front ++ ys) ↔ DiffersWithin n xs ys := by
  constructor
  · rintro ⟨start, hstart⟩
    refine ⟨start - front.length, fun i hi => ?_⟩
    have := hstart (front.length + i) (by
      rwa [List.getElem?_append_right (by omega), List.getElem?_append_right (by omega),
        Nat.add_sub_cancel_left])
    omega
  · rintro ⟨start, hstart⟩
    refine ⟨front.length + start, fun i hi => ?_⟩
    by_cases hfront : i < front.length
    · rw [List.getElem?_append_left hfront, List.getElem?_append_left hfront] at hi
      exact absurd rfl hi
    · rw [List.getElem?_append_right (by omega), List.getElem?_append_right (by omega)] at hi
      have := hstart (i - front.length) hi
      omega

/-- Places that differ still do after a mapping that keeps values apart. -/
theorem DiffersWithin.of_map {α β : Type} {f : α → β} (hf : Function.Injective f) {n : Nat}
    {xs ys : List α} (h : DiffersWithin n (xs.map f) (ys.map f)) : DiffersWithin n xs ys := by
  obtain ⟨start, hstart⟩ := h
  refine ⟨start, fun i hi => hstart i fun heq => hi ?_⟩
  rw [List.getElem?_map, List.getElem?_map] at heq
  exact Option.map_injective hf heq

/-! ## The remainder of a burst -/

namespace Bech32

/-- A zero in the lowest place of what comes back means that nothing comes back. -/
theorem eq_zero_of_feedback {top : Symbol} (h : (feedback top).extractLsb' 0 5 = 0) : top = 0 := by
  have all : ∀ t : Symbol, (feedback t).extractLsb' 0 5 = 0 → t = 0 := by decide
  exact all top h

/-- Only the zero remainder becomes zero by a zero symbol. -/
theorem eq_zero_of_step_zero {r : BitVec 30} (h : step r 0 = 0) : r = 0 := by
  have hlow : (step r 0).extractLsb' 0 5 = (feedback (r.extractLsb' 25 5)).extractLsb' 0 5 := by
    apply BitVec.eq_of_getLsbD_eq
    intro j hj
    have hj30 : j < 30 := by omega
    simp [step, hj, hj30]
  have htop : r.extractLsb' 25 5 = 0 := by
    apply eq_zero_of_feedback
    rw [← hlow, h]
    decide
  -- the highest symbol is zero, so the others have only moved up
  have hparts : parts r = 0 :: (parts r).tail := by
    rw [parts, List.map_cons, List.tail_cons, htop]
  have hmoved := parts_step hparts 0
  rw [h] at hmoved
  apply parts_injective
  have hzero : parts 0 = [0, 0, 0, 0, 0] ++ [(0 : Symbol)] := by decide
  rw [hzero] at hmoved
  obtain ⟨htail, -⟩ := List.append_inj' hmoved rfl
  rw [hparts, ← htail]
  decide

/-- A symbol after it keeps two remainders apart. -/
theorem step_injective {r r' : BitVec 30} {s : Symbol} (h : step r s = step r' s) : r = r' := by
  have hdiff : step (r ^^^ r') 0 = 0 := by
    have hzero : (0 : Symbol) = s ^^^ s := BitVec.xor_self.symm
    rw [hzero, step_xor, h, BitVec.xor_self]
    rfl
  exact BitVec.xor_eq_zero_iff.mp (eq_zero_of_step_zero hdiff)

/-- So do any number of them. -/
theorem absorb_injective_left {r r' : BitVec 30} (ss : List Symbol)
    (h : absorb r ss = absorb r' ss) : r = r' := by
  induction ss generalizing r r' with
  | nil => exact h
  | cons s ss ih => exact step_injective (ih h)

/-- Up to six symbols are determined by what they make of a remainder. -/
theorem absorb_injective_right {r : BitVec 30} {us vs : List Symbol}
    (hlen : us.length = vs.length) (hshort : us.length ≤ 6) (h : absorb r us = absorb r vs) :
    us = vs := by
  rw [absorb_eq_zeros_xor r us, absorb_eq_zeros_xor r vs, hlen] at h
  have hparts := congrArg parts ((BitVec.xor_right_inj _).mp h)
  rw [parts_absorb_zero_append hshort, parts_absorb_zero_append (hlen ▸ hshort), hlen] at hparts
  exact List.append_cancel_left hparts

/-- Sequences that differ by a burst have different remainders. -/
theorem eq_of_residue_eq {ss ts : List Symbol} (hlen : ss.length = ts.length)
    (hwithin : DiffersWithin 6 ss ts) (h : residue ss = residue ts) : ss = ts := by
  obtain ⟨front, us, vs, back, rfl, rfl, huv, hshort⟩ := hwithin.split hlen
  have hburst : absorb (residue front) us = absorb (residue front) vs := by
    apply absorb_injective_left back
    rw [residue_append, residue_append] at h
    simpa only [absorb, List.foldl_append] using h
  rw [absorb_injective_right huv hshort hburst]

end Bech32

/-! ## Addresses -/

namespace Segwit

/-- The symbols after the separator, of which the last six are the checksum. -/
def symbols (w : WitnessProgram) : List Symbol :=
  payload w.version w.program ++
    Bech32.checksum (variant w.version) w.hrp.toList (payload w.version w.program)

theorem length_symbols (w : WitnessProgram) :
    (symbols w).length = (8 * w.program.length + 4) / 5 + 7 := by
  simp only [symbols, payload, List.length_append, List.length_cons, Symbol.length_ofBits,
    Bytes.length_bits, Bech32.length_checksum]

/-- The symbols close the remainder. -/
theorem residue_symbols (w : WitnessProgram) :
    Bech32.residue (Bech32.hrpSymbols w.hrp.toList ++ symbols w) = (variant w.version).residue := by
  have hverifies := Bech32.verifies_checksum (variant w.version) w.hrp.toList
    (payload w.version w.program)
  rwa [Bech32.verifies, decide_eq_true_eq] at hverifies

theorem toList_encode_eq_symbols (w : WitnessProgram) :
    (encode w.hrp w.version w.program).toList
      = w.hrp.toList ++ '1' :: (symbols w).map Symbol.char :=
  toList_encode w.hrp w.version w.program

end Segwit

namespace Address

open Segwit

/-- A burst that changes the first of two letters leaves all but the first three symbols alone, and
these six characters count as places that are no farther apart. -/
theorem differsWithin_of_two_letters {a a' b b' : Char} (hne : a ≠ a')
    (ha : BitVec.ofNat 5 (a.toNat / 32) = BitVec.ofNat 5 (a'.toNat / 32))
    (hb : BitVec.ofNat 5 (b.toNat / 32) = BitVec.ofNat 5 (b'.toNat / 32)) {xs ys : List Symbol}
    (h : DiffersWithin 6 ([a, b] ++ '1' :: xs.map Symbol.char)
      ([a', b'] ++ '1' :: ys.map Symbol.char)) :
    DiffersWithin 6 (Bech32.hrpSymbols [a, b] ++ xs) (Bech32.hrpSymbols [a', b'] ++ ys) := by
  obtain ⟨start, hstart⟩ := h
  have hzero : start = 0 := by
    have := hstart 0 (by simpa using hne)
    omega
  have hsame : ∀ i, 3 ≤ i → xs[i]? = ys[i]? := by
    intro i hi
    by_contra hdiff
    have hmap : (xs.map Symbol.char)[i]? ≠ (ys.map Symbol.char)[i]? := by
      rw [List.getElem?_map, List.getElem?_map]
      exact fun heq => hdiff (Option.map_injective Symbol.char_injective heq)
    have := hstart (i + 3) hmap
    omega
  refine ⟨3, fun i hi => ?_⟩
  match i with
  | 0 => exact absurd (congrArg some ha) hi
  | 1 => exact absurd (congrArg some hb) hi
  | 2 => exact absurd rfl hi
  | 3 | 4 => omega
  | i + 5 =>
    have : i < 3 := by
      by_contra hlarge
      exact hi (hsame i (by omega))
    omega

/-- Under human-readable parts of one length, texts that differ by a burst have symbols that do. -/
theorem differsWithin_hrpSymbols {hrp hrp' : String} (h : hrp ∈ knownHrps) (h' : hrp' ∈ knownHrps)
    (hlen : hrp.toList.length = hrp'.toList.length) {xs ys : List Symbol}
    (hwithin : DiffersWithin 6 (hrp.toList ++ '1' :: xs.map Symbol.char)
      (hrp'.toList ++ '1' :: ys.map Symbol.char)) :
    DiffersWithin 6 (Bech32.hrpSymbols hrp.toList ++ xs) (Bech32.hrpSymbols hrp'.toList ++ ys) := by
  by_cases heq : hrp = hrp'
  · subst heq
    rw [differsWithin_append_left_iff] at hwithin ⊢
    rw [← List.singleton_append, ← List.singleton_append (l := ys.map Symbol.char),
      differsWithin_append_left_iff] at hwithin
    exact hwithin.of_map Symbol.char_injective
  · have hbc : "bc".toList = ['b', 'c'] := rfl
    have htb : "tb".toList = ['t', 'b'] := rfl
    rcases eq_of_mem_knownHrps h with rfl | rfl | rfl <;>
      rcases eq_of_mem_knownHrps h' with rfl | rfl | rfl
    · exact absurd rfl heq
    · rw [hbc, htb] at *
      exact differsWithin_of_two_letters (by decide) (by decide) (by decide) hwithin
    · exact absurd hlen (by decide)
    · rw [hbc, htb] at *
      exact differsWithin_of_two_letters (by decide) (by decide) (by decide) hwithin
    · exact absurd rfl heq
    · exact absurd hlen (by decide)
    · exact absurd hlen (by decide)
    · exact absurd hlen (by decide)
    · exact absurd rfl heq

/-- The known human-readable parts count as different symbols. -/
theorem eq_of_hrpSymbols_eq {hrp hrp' : String} (h : hrp ∈ knownHrps) (h' : hrp' ∈ knownHrps)
    (heq : Bech32.hrpSymbols hrp.toList = Bech32.hrpSymbols hrp'.toList) : hrp = hrp' := by
  have all : ∀ a ∈ knownHrps, ∀ b ∈ knownHrps,
      Bech32.hrpSymbols a.toList = Bech32.hrpSymbols b.toList → a = b := by decide
  exact all hrp h hrp' h' heq

/-- Addresses of one length that differ by a burst are the same up to their case. -/
theorem asciiToLower_eq_of_differsWithin {s t : String} {w u : WitnessProgram}
    (hs : decodeSegwit s = .ok w) (ht : decodeSegwit t = .ok u) (hlen : t.length = s.length)
    (hwithin : DiffersWithin 6 (Text.asciiToLower s).toList (Text.asciiToLower t).toList) :
    Text.asciiToLower s = Text.asciiToLower t := by
  obtain ⟨hsdecode, hshrp, hsversion, hsprogram⟩ := (decodeSegwit_eq_ok_iff_decode s w).mp hs
  obtain ⟨htdecode, hthrp, htversion, htprogram⟩ := (decodeSegwit_eq_ok_iff_decode t u).mp ht
  have hslower := ((decode_eq_ok_iff s w).mp hsdecode).2.2
  have htlower := ((decode_eq_ok_iff t u).mp htdecode).2.2
  -- the length of the text is that of the human-readable part, up to the two lengths of programs
  have hslen : s.length = w.hrp.toList.length + (8 * w.program.length + 4) / 5 + 8 := by
    rw [← length_toList_encode w.hrp w.version, ← hslower, toList_asciiToLower, List.length_map,
      String.length_toList]
  have htlen : t.length = u.hrp.toList.length + (8 * u.program.length + 4) / 5 + 8 := by
    rw [← length_toList_encode u.hrp u.version, ← htlower, toList_asciiToLower, List.length_map,
      String.length_toList]
  have hwhrp := length_of_mem_knownHrps hshrp
  have huhrp := length_of_mem_knownHrps hthrp
  have hhrplen : w.hrp.toList.length = u.hrp.toList.length := by omega
  have hsize : w.program.length = u.program.length := by omega
  rw [hslower, htlower, toList_encode_eq_symbols, toList_encode_eq_symbols] at hwithin
  have hsymbols : Bech32.hrpSymbols w.hrp.toList ++ symbols w
      = Bech32.hrpSymbols u.hrp.toList ++ symbols u := by
    apply Bech32.eq_of_residue_eq
    · simp only [Bech32.hrpSymbols, List.length_append, List.length_cons, List.length_map,
        length_symbols, hhrplen, hsize]
    · exact differsWithin_hrpSymbols hshrp hthrp hhrplen hwithin
    · rw [residue_symbols, residue_symbols, hsversion, htversion]
  obtain ⟨hhrp, hdata⟩ := List.append_inj hsymbols (by
    simp only [Bech32.hrpSymbols, List.length_append, List.length_cons, List.length_map, hhrplen])
  rw [← String.toList_inj, hslower, htlower, toList_encode_eq_symbols, toList_encode_eq_symbols,
    eq_of_hrpSymbols_eq hshrp hthrp hhrp, hdata]

/-- An address is in one case. -/
theorem oneCase_of_decodeSegwit {s : String} {w : WitnessProgram} (h : decodeSegwit s = .ok w) :
    s = Text.asciiToLower s ∨ s = Text.asciiToUpper s := by
  obtain ⟨hdecode, -⟩ := (decodeSegwit_eq_ok_iff_decode s w).mp h
  exact eq_asciiToLower_or_asciiToUpper ((decode_eq_ok_iff s w).mp hdecode).1.oneCase

/-- An address begins with two letters, so that its case shows in both of them. -/
theorem two_letters_of_decodeSegwit {s : String} {w : WitnessProgram}
    (h : decodeSegwit s = .ok w) {j : Nat} (hj : j < 2) :
    (Text.asciiToLower s).toList[j]? ≠ (Text.asciiToUpper s).toList[j]? := by
  obtain ⟨hdecode, hhrp, -, -⟩ := (decodeSegwit_eq_ok_iff_decode s w).mp h
  have hprefix : ∀ hrp ∈ knownHrps, ∃ a b rest,
      hrp.toList = a :: b :: rest ∧ a ≠ a.toUpper ∧ b ≠ b.toUpper := by
    intro hrp hmem
    rcases eq_of_mem_knownHrps hmem with rfl | rfl | rfl
    · exact ⟨'b', 'c', [], rfl, by decide, by decide⟩
    · exact ⟨'t', 'b', [], rfl, by decide, by decide⟩
    · exact ⟨'b', 'c', ['r', 't'], rfl, by decide, by decide⟩
  obtain ⟨a, b, rest, hrp, ha, hb⟩ := hprefix w.hrp hhrp
  rw [← asciiToUpper_asciiToLower, toList_asciiToUpper,
    ((decode_eq_ok_iff s w).mp hdecode).2.2, toList_encode_eq_symbols, hrp]
  match j with
  | 0 => simpa using ha
  | 1 => simpa using hb

/-- Two addresses that are the same up to their case are the same, or differ in both of the letters
that they begin with. -/
theorem eq_or_two_differ {s t : String} {w u : WitnessProgram} (hs : decodeSegwit s = .ok w)
    (ht : decodeSegwit t = .ok u) (hlower : Text.asciiToLower s = Text.asciiToLower t) :
    s = t ∨ ∀ j < 2, s.toList[j]? ≠ t.toList[j]? := by
  have hupper : Text.asciiToUpper s = Text.asciiToUpper t := by
    rw [← asciiToUpper_asciiToLower s, hlower, asciiToUpper_asciiToLower]
  rcases oneCase_of_decodeSegwit hs with hscase | hscase <;>
    rcases oneCase_of_decodeSegwit ht with htcase | htcase
  · exact .inl (by rw [hscase, htcase, hlower])
  · right
    intro j hj
    rw [hscase, htcase, ← hupper]
    exact two_letters_of_decodeSegwit hs hj
  · right
    intro j hj
    rw [hscase, htcase, hupper]
    exact (two_letters_of_decodeSegwit ht hj).symm
  · exact .inl (by rw [hscase, htcase, hupper])

/-- A character that is replaced by another one makes an address none, even if only its case
changes. -/
theorem not_decodeSegwit_set {s : String} {w u : WitnessProgram} (h : decodeSegwit s = .ok w)
    {i : Nat} {c : Char} (hi : i < s.length) (hc : s.toList[i]? ≠ some c) :
    decodeSegwit (String.ofList (s.toList.set i c)) ≠ .ok u := by
  intro ht
  generalize htext : String.ofList (s.toList.set i c) = t at ht
  have hset : t.toList = s.toList.set i c := by rw [← htext, String.toList_ofList]
  have hother : ∀ j, i ≠ j → s.toList[j]? = t.toList[j]? := by
    intro j hij
    rw [hset, List.getElem?_set_ne hij]
  have hlen : t.length = s.length := by
    rw [← String.length_toList, hset, List.length_set, String.length_toList]
  have hwithin : DiffersWithin 6 (Text.asciiToLower s).toList (Text.asciiToLower t).toList := by
    refine ⟨i, fun j hj => ?_⟩
    by_cases hij : i = j
    · omega
    · rw [toList_asciiToLower, toList_asciiToLower, List.getElem?_map, List.getElem?_map,
        hother j hij] at hj
      exact absurd rfl hj
  rcases eq_or_two_differ h ht (asciiToLower_eq_of_differsWithin h ht hlen hwithin) with hst | hapart
  · apply hc
    rw [hst, hset, List.getElem?_set_self (by rwa [String.length_toList])]
  · -- one of the first two letters is not the one that was replaced
    by_cases hzero : i = 0
    · exact hapart 1 (by decide) (hother 1 (by omega))
    · exact hapart 0 (by decide) (hother 0 hzero)

/-- Two neighbours that change places make an address none, unless they are the same character. -/
theorem not_decodeSegwit_swap {s : String} {w u : WitnessProgram} (h : decodeSegwit s = .ok w)
    {front back : List Char} {x y : Char} (hs : s.toList = front ++ x :: y :: back) (hxy : x ≠ y) :
    decodeSegwit (String.ofList (front ++ y :: x :: back)) ≠ .ok u := by
  intro ht
  generalize htext : String.ofList (front ++ y :: x :: back) = t at ht
  have hswap : t.toList = front ++ y :: x :: back := by rw [← htext, String.toList_ofList]
  have hlen : t.length = s.length := by
    rw [← String.length_toList, ← String.length_toList, hs, hswap]
    simp
  have hwithin : DiffersWithin 6 (Text.asciiToLower s).toList (Text.asciiToLower t).toList := by
    rw [toList_asciiToLower, toList_asciiToLower, hs, hswap, List.map_append, List.map_append,
      differsWithin_append_left_iff]
    refine ⟨0, fun j hj => ?_⟩
    match j with
    | 0 | 1 => omega
    | j + 2 => exact absurd rfl hj
  have hlower := asciiToLower_eq_of_differsWithin h ht hlen hwithin
  rw [← String.toList_inj, toList_asciiToLower, toList_asciiToLower, hs, hswap, List.map_append,
    List.map_append, List.append_cancel_left_eq, List.map_cons, List.map_cons, List.map_cons,
    List.map_cons, List.cons.injEq] at hlower
  -- in a text of one case, characters that are the same in lower case are the same
  apply hxy
  rcases oneCase_of_decodeSegwit h with hcase | hcase
  · rw [← String.toList_inj, toList_asciiToLower, hs, List.map_append] at hcase
    obtain ⟨-, hcase⟩ := List.append_inj hcase (by simp)
    simp only [List.map_cons, List.cons.injEq] at hcase
    rw [hcase.1, hcase.2.1, hlower.1]
  · rw [← String.toList_inj, toList_asciiToUpper, hs, List.map_append] at hcase
    obtain ⟨-, hcase⟩ := List.append_inj hcase (by simp)
    simp only [List.map_cons, List.cons.injEq] at hcase
    rw [hcase.1, hcase.2.1, ← Char.toUpper_toLower_eq_toUpper x, hlower.1,
      Char.toUpper_toLower_eq_toUpper]

/-- What is not decoded as anything is refused. -/
theorem exists_error_of_ne_ok {s : String} (h : ∀ u, decodeSegwit s ≠ .ok u) :
    ∃ e, decodeSegwit s = .error e := by
  cases hs : decodeSegwit s with
  | error e => exact ⟨e, rfl⟩
  | ok u => exact absurd hs (h u)

/-- **Segwit addresses detect bursts of errors**: a text of as many characters as an address, which
differs from it, up to letter case, within six consecutive characters, is no address. Nor is an address
with one character replaced, be it only by the letter of the other case, or with two different
neighbours swapped. -/
theorem decodeSegwit_burst {s : String} {w : WitnessProgram} (h : decodeSegwit s = .ok w) :
    (∀ t : String, t.length = s.length → Text.asciiToLower t ≠ Text.asciiToLower s →
      DiffersWithin 6 (Text.asciiToLower s).toList (Text.asciiToLower t).toList →
        ∃ e, decodeSegwit t = .error e) ∧
    (∀ i c, i < s.length → s.toList[i]? ≠ some c →
      ∃ e, decodeSegwit (String.ofList (s.toList.set i c)) = .error e) ∧
    (∀ front x y back, s.toList = front ++ x :: y :: back → x ≠ y →
      ∃ e, decodeSegwit (String.ofList (front ++ y :: x :: back)) = .error e) := by
  refine ⟨fun t hlen hne hwithin => ?_, fun i c hi hc => ?_, fun front x y back hs hxy => ?_⟩
  · apply exists_error_of_ne_ok
    intro u ht
    exact hne (asciiToLower_eq_of_differsWithin h ht hlen hwithin).symm
  · apply exists_error_of_ne_ok
    intro u
    exact not_decodeSegwit_set h hi hc
  · apply exists_error_of_ne_ok
    intro u
    exact not_decodeSegwit_swap h hs hxy

/-- An address in capitals whose first six characters are replaced, so that it names another known
network. The version is in the midst of them and stays; two symbols of the program go. -/
theorem decodeSegwit_burst_other_network :
    decodeSegwit "BC1QW508D6QEJXTDG4Y5R3ZARVARY0C5XW7KV8F3T4"
        = .ok ⟨"bc", 0, [0x75, 0x1e, 0x76, 0xe8, 0x19, 0x91, 0x96, 0xd4, 0x54, 0x94, 0x1c, 0x45, 0xd1,
            0xb3, 0xa3, 0x23, 0xf1, 0x43, 0x3b, 0xd6]⟩ ∧
      ∃ e, decodeSegwit "tb1qzd08d6qejxtdg4y5r3zarvary0c5xw7kv8f3t4" = .error e := by
  have hok : decodeSegwit "BC1QW508D6QEJXTDG4Y5R3ZARVARY0C5XW7KV8F3T4"
      = .ok ⟨"bc", 0, [0x75, 0x1e, 0x76, 0xe8, 0x19, 0x91, 0x96, 0xd4, 0x54, 0x94, 0x1c, 0x45, 0xd1,
          0xb3, 0xa3, 0x23, 0xf1, 0x43, 0x3b, 0xd6]⟩ := by decide +kernel
  refine ⟨hok, (decodeSegwit_burst hok).1 _ (by decide) (by decide +kernel) ⟨0, fun i hi => ?_⟩⟩
  have hback : (Text.asciiToLower "BC1QW508D6QEJXTDG4Y5R3ZARVARY0C5XW7KV8F3T4").toList.drop 6
      = (Text.asciiToLower "tb1qzd08d6qejxtdg4y5r3zarvary0c5xw7kv8f3t4").toList.drop 6 := by
    decide +kernel
  have hsame := congrArg (fun cs => cs[i - 6]?) hback
  simp only [List.getElem?_drop] at hsame
  by_cases hsix : 6 ≤ i
  · rw [Nat.add_sub_cancel' hsix] at hsame
    exact absurd hsame hi
  · omega

end Address

end SeedWallet
