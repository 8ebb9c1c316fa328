import SeedWallet.Path
import SeedWallet.Proofs.Numerals

/-!
# Written paths

The text of a path is `m/` and five components with slashes between them, of which the first three have
a marker behind their number. Numerals have neither markers nor slashes, so a text falls into components
in one way only, and what a component is read as depends on nothing but the component.

- `Path.Spelled s ns`: the text spells the five numbers.
- `Path.readComponents_eq_ok_iff`: exactly the texts that spell numbers are read as numbers.
- `Path.parse_of_spelled`, `Path.exists_fault_of_not_spelled`: what becomes of a text that spells
  numbers and of any other one.
- `Path.parse_text`: a written path is read as that path.
- `Path.parse_exact`: the texts of paths, and the failure of every other text.
-/

namespace SeedWallet

/-! ## Purposes and chains -/

theorem Purpose.ofNumber_eq_error_iff (n : UInt32) (e : WalletError) :
    ofNumber n = .error e ↔ (n ≠ 44 ∧ n ≠ 49 ∧ n ≠ 84) ∧ e = .invalidPurpose n := by
  rw [ofNumber]
  by_cases h44 : n = 44
  · simp [h44]
  · by_cases h49 : n = 49
    · simp [h49]
    · by_cases h84 : n = 84
      · simp [h84]
      · simp [h44, h49, h84, eq_comm]

theorem Purpose.number_cases (p : Purpose) : p.number = 44 ∨ p.number = 49 ∨ p.number = 84 := by
  cases p <;> decide

theorem Chain.ofNumber_eq_error_iff (n : UInt32) (e : WalletError) :
    ofNumber n = .error e ↔ (n ≠ 0 ∧ n ≠ 1) ∧ e = .invalidChain n := by
  rw [ofNumber]
  by_cases h0 : n = 0
  · simp [h0]
  · by_cases h1 : n = 1
    · simp [h1]
    · simp [h0, h1, eq_comm]

theorem Chain.number_cases (c : Chain) : c.number = 0 ∨ c.number = 1 := by
  cases c <;> decide

namespace Path

/-! ## Components -/

/-- Whether the characters are a hardened component for the number: a numeral and one marker. -/
def SpellsHardened (cs : List Char) (n : UInt32) : Prop :=
  ∃ ds marker, cs = ds ++ [marker] ∧ (marker = '\'' ∨ marker = 'h') ∧ Decimal.Spells ds n.toNat

/-- Whether the characters are a component that is not hardened: a numeral alone. -/
def SpellsNormal (cs : List Char) (n : UInt32) : Prop :=
  Decimal.Spells cs n.toNat

theorem unmarked?_eq_some_iff (cs ds : List Char) :
    unmarked? cs = some ds ↔ ∃ marker, cs = ds ++ [marker] ∧ (marker = '\'' ∨ marker = 'h') := by
  constructor
  · intro h
    unfold unmarked? at h
    split at h
    · rename_i c hlast
      split at h
      · rename_i hmarker
        cases h
        obtain ⟨front, rfl⟩ := List.getLast?_eq_some_iff.mp hlast
        exact ⟨c, by rw [List.dropLast_concat], hmarker⟩
      · cases h
    · cases h
  · rintro ⟨marker, rfl, hmarker⟩
    simp [unmarked?, hmarker]

/-- The characters of a numeral are digits and plus signs. -/
theorem isDigit_or_eq_plus {cs : List Char} {n : Nat} (h : Decimal.Spells cs n) :
    ∀ c ∈ cs, c.isDigit = true ∨ c = '+' := by
  obtain ⟨ds, hcs, -, hdigits, -⟩ := h
  intro c hc
  rcases hcs with rfl | rfl
  · exact .inl (hdigits c hc)
  · rcases List.mem_cons.mp hc with rfl | hc
    · exact .inr rfl
    · exact .inl (hdigits c hc)

theorem not_mem_of_spells {cs : List Char} {n : Nat} (h : Decimal.Spells cs n) {c : Char}
    (hdigit : c.isDigit = false) (hplus : c ≠ '+') : c ∉ cs := by
  intro hc
  rcases isDigit_or_eq_plus h c hc with h | h
  · exact Decimal.ne_of_isDigit h hdigit rfl
  · exact hplus h

/-- A numeral has no marker behind it. -/
theorem unmarked?_of_spells {cs : List Char} {n : Nat} (h : Decimal.Spells cs n) :
    unmarked? cs = none := by
  rw [Option.eq_none_iff_forall_ne_some]
  intro ds hds
  obtain ⟨marker, rfl, hmarker⟩ := (unmarked?_eq_some_iff cs ds).mp hds
  refine not_mem_of_spells h (c := marker) ?_ ?_ (by simp)
  · rcases hmarker with rfl | rfl <;> rfl
  · rcases hmarker with rfl | rfl <;> decide

/-- A number of 32 bits is read from its numerals. -/
theorem readBelow_eq_ok_iff (cs : List Char) (n : UInt32) :
    (∃ m, Decimal.readBelow (2 ^ 32) cs = .ok m ∧ UInt32.ofNat m = n) ↔
      Decimal.Spells cs n.toNat := by
  simp only [Decimal.readBelow_eq_ok_iff]
  constructor
  · rintro ⟨m, ⟨hspells, hlt⟩, rfl⟩
    rwa [UInt32.toNat_ofNat_of_lt' hlt]
  · intro h
    exact ⟨n.toNat, ⟨h, n.toNat_lt⟩, UInt32.ofNat_toNat⟩

/-- A component is read from its characters without the marker, which stands where it has to. -/
theorem readComponent_eq_ok_iff_marked (hardened : Bool) (cs : List Char) (n : UInt32) :
    readComponent hardened cs = .ok n ↔
      (unmarked? cs).isSome = hardened ∧ Decimal.Spells ((unmarked? cs).getD cs) n.toNat := by
  rw [readComponent, ← readBelow_eq_ok_iff]
  by_cases hmarked : (unmarked? cs).isSome = hardened
  · simp only [hmarked, if_true, true_and]
    cases Decimal.readBelow (2 ^ 32) ((unmarked? cs).getD cs) <;> simp
  · simp [hmarked]

theorem readComponent_true_eq_ok_iff (cs : List Char) (n : UInt32) :
    readComponent true cs = .ok n ↔ SpellsHardened cs n := by
  rw [readComponent_eq_ok_iff_marked]
  constructor
  · rintro ⟨hmarked, hspells⟩
    obtain ⟨ds, hds⟩ := Option.isSome_iff_exists.mp hmarked
    obtain ⟨marker, hcs, hmarker⟩ := (unmarked?_eq_some_iff cs ds).mp hds
    rw [hds] at hspells
    exact ⟨ds, marker, hcs, hmarker, hspells⟩
  · rintro ⟨ds, marker, hcs, hmarker, hspells⟩
    have hds := (unmarked?_eq_some_iff cs ds).mpr ⟨marker, hcs, hmarker⟩
    rw [hds]
    exact ⟨rfl, hspells⟩

theorem readComponent_false_eq_ok_iff (cs : List Char) (n : UInt32) :
    readComponent false cs = .ok n ↔ SpellsNormal cs n := by
  rw [readComponent_eq_ok_iff_marked]
  constructor
  · rintro ⟨hmarked, hspells⟩
    rw [Option.isSome_eq_false_iff, Option.isNone_iff_eq_none] at hmarked
    rw [hmarked] at hspells
    exact hspells
  · intro hspells
    rw [unmarked?_of_spells hspells]
    exact ⟨rfl, hspells⟩

theorem slash_not_mem_of_spellsNormal {cs : List Char} {n : UInt32} (h : SpellsNormal cs n) :
    '/' ∉ cs :=
  not_mem_of_spells h rfl (by decide)

theorem slash_not_mem_of_spellsHardened {cs : List Char} {n : UInt32} (h : SpellsHardened cs n) :
    '/' ∉ cs := by
  obtain ⟨ds, marker, rfl, hmarker, hspells⟩ := h
  rw [List.mem_append, List.mem_singleton, not_or]
  refine ⟨not_mem_of_spells hspells rfl (by decide), ?_⟩
  rcases hmarker with rfl | rfl <;> decide

/-! ## Texts of five numbers -/

/-- The numbers of a path. -/
structure Numbers where
  purpose : UInt32
  coin : UInt32
  account : UInt32
  chain : UInt32
  index : UInt32
  deriving DecidableEq

/-- The numbers that a path is written with. -/
def numbers (p : Path) : Numbers :=
  ⟨p.purpose.number, p.coin, p.account, p.chain.number, p.index⟩

/-- Whether the text spells the numbers: five components behind `m/`, with a slash between each two,
the first three of them hardened. -/
def Spelled (s : String) (ns : Numbers) : Prop :=
  ∃ purpose coin account chain index,
    s = String.ofList ('m' :: '/' :: joinWith '/' [purpose, coin, account, chain, index]) ∧
      SpellsHardened purpose ns.purpose ∧ SpellsHardened coin ns.coin ∧
      SpellsHardened account ns.account ∧ SpellsNormal chain ns.chain ∧ SpellsNormal index ns.index

/-- Five components are read one by one. -/
theorem readComponents_eq_ok_iff_split (cs : List Char) (ns : Numbers) :
    readComponents cs = .ok (ns.purpose, ns.coin, ns.account, ns.chain, ns.index) ↔
      ∃ body purpose coin account chain index, cs = 'm' :: '/' :: body ∧
        splitOn '/' body = [purpose, coin, account, chain, index] ∧
        readComponent true purpose = .ok ns.purpose ∧ readComponent true coin = .ok ns.coin ∧
        readComponent true account = .ok ns.account ∧ readComponent false chain = .ok ns.chain ∧
        readComponent false index = .ok ns.index := by
  constructor
  · intro h
    unfold readComponents at h
    split at h
    · rename_i body
      split at h
      · rename_i purpose coin account chain index hsplit
        simp only [Result.bind_eq_ok_iff] at h
        obtain ⟨_, hpurpose, _, hcoin, _, haccount, _, hchain, _, hindex, h⟩ := h
        cases h
        exact ⟨body, purpose, coin, account, chain, index, rfl, hsplit, hpurpose, hcoin, haccount,
          hchain, hindex⟩
      · cases h
    · cases h
  · rintro ⟨body, purpose, coin, account, chain, index, rfl, hsplit, hpurpose, hcoin, haccount,
      hchain, hindex⟩
    rw [readComponents, hsplit]
    simp only [hpurpose, hcoin, haccount, hchain, hindex]
    rfl

/-- **Exactly the texts that spell numbers are read**, each as its numbers. -/
theorem readComponents_eq_ok_iff (s : String) (ns : Numbers) :
    readComponents s.toList = .ok (ns.purpose, ns.coin, ns.account, ns.chain, ns.index) ↔
      Spelled s ns := by
  simp only [readComponents_eq_ok_iff_split, readComponent_true_eq_ok_iff,
    readComponent_false_eq_ok_iff]
  constructor
  · rintro ⟨body, purpose, coin, account, chain, index, hs, hsplit, hspells⟩
    refine ⟨purpose, coin, account, chain, index, ?_, hspells⟩
    rw [← hsplit, joinWith_splitOn, ← hs, String.ofList_toList]
  · rintro ⟨purpose, coin, account, chain, index, rfl, hspells⟩
    refine ⟨_, purpose, coin, account, chain, index, String.toList_ofList, ?_, hspells⟩
    obtain ⟨hpurpose, hcoin, haccount, hchain, hindex⟩ := hspells
    refine splitOn_joinWith (List.cons_ne_nil _ _) ?_
    simp [slash_not_mem_of_spellsHardened hpurpose, slash_not_mem_of_spellsHardened hcoin,
      slash_not_mem_of_spellsHardened haccount, slash_not_mem_of_spellsNormal hchain,
      slash_not_mem_of_spellsNormal hindex]

/-! ## Paths -/

/-- Numbers are looked at only after all of them have been read. -/
theorem parse_of_spelled {s : String} {ns : Numbers} (h : Spelled s ns) :
    parse s = create ns.purpose ns.coin ns.account ns.chain ns.index := by
  rw [parse, (readComponents_eq_ok_iff s ns).mpr h]

/-- A text that spells no numbers is refused as a whole. -/
theorem exists_fault_of_not_spelled {s : String} (h : ∀ ns, ¬ Spelled s ns) :
    ∃ fault : Fault, parse s = .error (.invalidPath (fault.message ++ ": " ++ s)) := by
  cases hread : readComponents s.toList with
  | ok x =>
    obtain ⟨purpose, coin, account, chain, index⟩ := x
    exact absurd ((readComponents_eq_ok_iff s ⟨purpose, coin, account, chain, index⟩).mp hread) (h _)
  | error fault => exact ⟨fault, by rw [parse, hread]⟩

theorem create_eq_ok_iff (ns : Numbers) (p : Path) :
    create ns.purpose ns.coin ns.account ns.chain ns.index = .ok p ↔ p.numbers = ns := by
  simp only [create, Result.bind_eq_ok_iff]
  constructor
  · rintro ⟨purpose, hpurpose, chain, hchain, h⟩
    cases h
    obtain ⟨_, _, _, _, _⟩ := ns
    simp only [numbers, Purpose.number_of_ofNumber hpurpose, Chain.number_of_ofNumber hchain]
  · rintro rfl
    exact ⟨p.purpose, Purpose.ofNumber_number _, p.chain, Chain.ofNumber_number _, rfl⟩

/-- The purpose is looked at first. -/
theorem create_eq_error_iff (ns : Numbers) (e : WalletError) :
    create ns.purpose ns.coin ns.account ns.chain ns.index = .error e ↔
      ((ns.purpose ≠ 44 ∧ ns.purpose ≠ 49 ∧ ns.purpose ≠ 84) ∧ e = .invalidPurpose ns.purpose) ∨
        ((ns.purpose = 44 ∨ ns.purpose = 49 ∨ ns.purpose = 84) ∧
          (ns.chain ≠ 0 ∧ ns.chain ≠ 1) ∧ e = .invalidChain ns.chain) := by
  rw [create, Result.bind_eq_error_iff, Purpose.ofNumber_eq_error_iff]
  refine or_congr_right ?_
  constructor
  · rintro ⟨purpose, hpurpose, h⟩
    rw [Result.bind_eq_error_iff, Chain.ofNumber_eq_error_iff] at h
    rcases h with h | ⟨chain, -, h⟩
    · exact ⟨Purpose.number_of_ofNumber hpurpose ▸ purpose.number_cases, h⟩
    · cases h
  · rintro ⟨hpurpose, hchain⟩
    cases h : Purpose.ofNumber ns.purpose with
    | error e' =>
      obtain ⟨hne, -⟩ := (Purpose.ofNumber_eq_error_iff _ _).mp h
      exact absurd hpurpose (by simp [hne])
    | ok purpose =>
      refine ⟨purpose, rfl, ?_⟩
      rw [Result.bind_eq_error_iff, Chain.ofNumber_eq_error_iff]
      exact .inl hchain

/-- What is not said of a text as a whole comes of the numbers that it spells. -/
theorem parse_eq_iff (s : String) {r : Result Path}
    (hr : ∀ reason, r ≠ .error (.invalidPath reason)) :
    parse s = r ↔
      ∃ ns, Spelled s ns ∧ create ns.purpose ns.coin ns.account ns.chain ns.index = r := by
  constructor
  · rintro rfl
    by_cases h : ∃ ns, Spelled s ns
    · obtain ⟨ns, hns⟩ := h
      exact ⟨ns, hns, (parse_of_spelled hns).symm⟩
    · obtain ⟨fault, hfault⟩ := exists_fault_of_not_spelled (not_exists.mp h)
      exact absurd hfault (hr _)
  · rintro ⟨ns, hns, rfl⟩
    exact parse_of_spelled hns

/-- The text of a path spells its numbers. -/
theorem spelled_text (p : Path) : Spelled p.text p.numbers := by
  have hhardened (n : UInt32) : SpellsHardened (markedDigits n) n :=
    ⟨_, _, rfl, .inl rfl, Decimal.spells_digits _⟩
  exact ⟨_, _, _, _, _, rfl, hhardened _, hhardened _, hhardened _, Decimal.spells_digits _,
    Decimal.spells_digits _⟩

/-- A written path is read as that path. -/
theorem parse_text (p : Path) : parse p.text = .ok p := by
  rw [parse_of_spelled p.spelled_text, create_eq_ok_iff]

/-- **Which texts are paths, and how any other text fails.** Every path is read from its text. A text is
read as a path if it spells numbers of which the first is a purpose and the fourth a chain, and the path
has these numbers. If it spells others, the purpose is refused, or else the chain; and if it spells none,
it is refused as a whole, whatever its numbers are. It cannot fail in any other way. -/
theorem parse_exact :
    (∀ p : Path, parse p.text = .ok p) ∧
    ∀ s : String,
      (∀ p, parse s = .ok p ↔ ∃ ns, Spelled s ns ∧
        (ns.purpose = 44 ∨ ns.purpose = 49 ∨ ns.purpose = 84) ∧ (ns.chain = 0 ∨ ns.chain = 1) ∧
        p.numbers = ns) ∧
      (∀ n, parse s = .error (.invalidPurpose n) ↔ ∃ ns, Spelled s ns ∧
        (ns.purpose ≠ 44 ∧ ns.purpose ≠ 49 ∧ ns.purpose ≠ 84) ∧ n = ns.purpose) ∧
      (∀ n, parse s = .error (.invalidChain n) ↔ ∃ ns, Spelled s ns ∧
        (ns.purpose = 44 ∨ ns.purpose = 49 ∨ ns.purpose = 84) ∧
        (ns.chain ≠ 0 ∧ ns.chain ≠ 1) ∧ n = ns.chain) ∧
      ((∃ fault : Fault, parse s = .error (.invalidPath (fault.message ++ ": " ++ s))) ↔
        ∀ ns, ¬ Spelled s ns) ∧
      (∀ e, parse s = .error e → (∃ n, e = .invalidPurpose n) ∨ (∃ n, e = .invalidChain n) ∨
        ∃ fault : Fault, e = .invalidPath (fault.message ++ ": " ++ s)) := by
  refine ⟨parse_text, fun s => ⟨fun p => ?_, fun n => ?_, fun n => ?_, ?_, fun e he => ?_⟩⟩
  · rw [parse_eq_iff s (by simp)]
    refine exists_congr fun ns => and_congr_right fun _ => ?_
    rw [create_eq_ok_iff]
    constructor
    · rintro rfl
      exact ⟨p.purpose.number_cases, p.chain.number_cases, rfl⟩
    · rintro ⟨-, -, h⟩
      exact h
  · rw [parse_eq_iff s (by simp)]
    simp only [create_eq_error_iff]
    simp
  · rw [parse_eq_iff s (by simp)]
    simp only [create_eq_error_iff]
    simp
  · constructor
    · rintro ⟨fault, h⟩ ns hns
      rw [parse_of_spelled hns, create_eq_error_iff] at h
      simp at h
    · exact exists_fault_of_not_spelled
  · by_cases h : ∃ ns, Spelled s ns
    · obtain ⟨ns, hns⟩ := h
      rw [parse_of_spelled hns, create_eq_error_iff] at he
      rcases he with ⟨-, rfl⟩ | ⟨-, -, rfl⟩
      · exact .inl ⟨_, rfl⟩
      · exact .inr (.inl ⟨_, rfl⟩)
    · obtain ⟨fault, hfault⟩ := exists_fault_of_not_spelled (not_exists.mp h)
      rw [hfault] at he
      cases he
      exact .inr (.inr ⟨fault, rfl⟩)

/-- A text may spell the numbers of a path otherwise than the path is written. -/
example : parse "m/+084h/0'/007'/1/5" = .ok ⟨.nativeSegwit, 0, 7, .change, 5⟩ := by decide +kernel

/-- A component that is no number counts before a purpose that is none. -/
example : parse "m/45'/0'/0'/2/" =
    .error (.invalidPath (Fault.notNumber.message ++ ": m/45'/0'/0'/2/")) := by decide +kernel

end Path

end SeedWallet
