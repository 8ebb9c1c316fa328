import SeedWallet.Proofs.PathText

/-!
# Spellings of a path

A path is written in one way, but read from many texts: each of its numbers may have a plus sign and
zeros in front, and each of the three markers is one of two characters. These are all its spellings, no
two of which are the same text. With apostrophes for all markers a spelling is the written form if no
number is padded, and only then.

- `Path.spelled`: the text of a path with given paddings and markers.
- `Path.parse_eq_ok_iff`: the texts that are read as a path are its spellings.
- `Path.spelled_inj`: paddings and markers show in the text.
- `Path.withApostrophes`: a text with apostrophes for the other marker.
- `Path.parsed_up_to_padding`: how far the written form is the only one.
-/

namespace SeedWallet

/-- What is done to every character is done to the pieces, if it leaves the separator alone. -/
theorem map_joinWith {sep : Char} {f : Char → Char} (h : f sep = sep) (ps : List (List Char)) :
    (joinWith sep ps).map f = joinWith sep (ps.map (List.map f)) := by
  induction ps with
  | nil => rfl
  | cons p ps ih =>
    cases ps with
    | nil => rfl
    | cons q qs =>
      show (p ++ sep :: joinWith sep (q :: qs)).map f = p.map f ++ sep :: joinWith sep _
      rw [List.map_append, List.map_cons, h, ih]

/-- Pieces without the separator can be told apart when they are joined. -/
theorem joinWith_inj {sep : Char} {ps qs : List (List Char)} (hps : ps ≠ []) (hqs : qs ≠ [])
    (hps' : ∀ p ∈ ps, sep ∉ p) (hqs' : ∀ q ∈ qs, sep ∉ q) :
    joinWith sep ps = joinWith sep qs ↔ ps = qs := by
  refine ⟨fun h => ?_, fun h => by rw [h]⟩
  rw [← splitOn_joinWith hps hps', h, splitOn_joinWith hqs hqs']

namespace Path

/-! ## Components -/

/-- What stands behind the number of a hardened component. -/
inductive Marker where
  | apostrophe
  | letter
  deriving DecidableEq

/-- The character of a marker. -/
def Marker.char : Marker → Char
  | .apostrophe => '\''
  | .letter => 'h'

theorem Marker.char_injective {m m' : Marker} (h : m.char = m'.char) : m = m' := by
  cases m <;> cases m' <;> simp_all [char]

/-- A hardened component with that padding and marker. -/
def markedPadded (pad : Decimal.Padding) (marker : Marker) (n : UInt32) : List Char :=
  Decimal.padded pad n.toNat ++ [marker.char]

theorem spellsNormal_iff (cs : List Char) (n : UInt32) :
    SpellsNormal cs n ↔ ∃ pad, cs = Decimal.padded pad n.toNat :=
  Decimal.spells_iff_padded cs n.toNat

theorem spellsHardened_iff (cs : List Char) (n : UInt32) :
    SpellsHardened cs n ↔ ∃ pad marker, cs = markedPadded pad marker n := by
  constructor
  · rintro ⟨ds, c, rfl, hmarker, hspells⟩
    obtain ⟨pad, rfl⟩ := (Decimal.spells_iff_padded ds n.toNat).mp hspells
    rcases hmarker with rfl | rfl
    · exact ⟨pad, .apostrophe, rfl⟩
    · exact ⟨pad, .letter, rfl⟩
  · rintro ⟨pad, marker, rfl⟩
    refine ⟨_, marker.char, rfl, ?_, (Decimal.spells_iff_padded _ _).mpr ⟨pad, rfl⟩⟩
    cases marker with
    | apostrophe => exact .inl rfl
    | letter => exact .inr rfl

theorem markedPadded_inj {pad pad' : Decimal.Padding} {marker marker' : Marker} {n : UInt32} :
    markedPadded pad marker n = markedPadded pad' marker' n ↔ pad = pad' ∧ marker = marker' := by
  rw [markedPadded, markedPadded, List.append_singleton_inj, Decimal.padded_inj]
  exact and_congr_right fun _ => ⟨Marker.char_injective, congrArg _⟩

/-! ## Whole texts -/

/-- The paddings of the five numbers. -/
structure Paddings where
  purpose : Decimal.Padding
  coin : Decimal.Padding
  account : Decimal.Padding
  chain : Decimal.Padding
  index : Decimal.Padding
  deriving DecidableEq

/-- The markers of the three hardened components. -/
structure Markers where
  purpose : Marker
  coin : Marker
  account : Marker
  deriving DecidableEq

/-- Nothing in front of any number. -/
def Paddings.none : Paddings := ⟨.none, .none, .none, .none, .none⟩

/-- The markers of the written form. -/
def Markers.apostrophes : Markers := ⟨.apostrophe, .apostrophe, .apostrophe⟩

/-- The components of the path with these paddings and markers. -/
def spelledComponents (p : Path) (pads : Paddings) (marks : Markers) : List (List Char) :=
  [markedPadded pads.purpose marks.purpose p.purpose.number, markedPadded pads.coin marks.coin p.coin,
   markedPadded pads.account marks.account p.account,
   Decimal.padded pads.chain p.chain.number.toNat, Decimal.padded pads.index p.index.toNat]

/-- The text of the path with these paddings and markers. -/
def spelled (p : Path) (pads : Paddings) (marks : Markers) : String :=
  String.ofList ('m' :: '/' :: joinWith '/' (p.spelledComponents pads marks))

/-- The written form has no padding, and apostrophes for markers. -/
theorem spelled_none (p : Path) : p.spelled .none .apostrophes = p.text := rfl

/-- **The texts that are read as a path are its spellings.** -/
theorem parse_eq_ok_iff (s : String) (p : Path) :
    parse s = .ok p ↔ ∃ pads marks, s = p.spelled pads marks := by
  rw [parse_eq_iff s (by simp)]
  simp only [create_eq_ok_iff, Spelled, spellsHardened_iff, spellsNormal_iff]
  constructor
  · rintro ⟨_, ⟨_, _, _, _, _, rfl, ⟨purpose, m, rfl⟩, ⟨coin, m', rfl⟩, ⟨account, m'', rfl⟩,
      ⟨chain, rfl⟩, ⟨index, rfl⟩⟩, rfl⟩
    exact ⟨⟨purpose, coin, account, chain, index⟩, ⟨m, m', m''⟩, rfl⟩
  · rintro ⟨pads, marks, rfl⟩
    exact ⟨_, ⟨_, _, _, _, _, rfl, ⟨_, _, rfl⟩, ⟨_, _, rfl⟩, ⟨_, _, rfl⟩, ⟨_, rfl⟩, ⟨_, rfl⟩⟩, rfl⟩

theorem slash_not_mem_of_mem_spelledComponents {p : Path} {pads : Paddings} {marks : Markers} :
    ∀ c ∈ p.spelledComponents pads marks, '/' ∉ c := by
  have hhardened (pad marker n) : '/' ∉ markedPadded pad marker n :=
    slash_not_mem_of_spellsHardened ((spellsHardened_iff _ n).mpr ⟨pad, marker, rfl⟩)
  have hnormal (pad) (n : UInt32) : '/' ∉ Decimal.padded pad n.toNat :=
    slash_not_mem_of_spellsNormal ((spellsNormal_iff _ n).mpr ⟨pad, rfl⟩)
  simp [spelledComponents, hhardened, hnormal]

/-- Paddings and markers show in the text. -/
theorem spelled_inj {p : Path} {pads pads' : Paddings} {marks marks' : Markers} :
    p.spelled pads marks = p.spelled pads' marks' ↔ pads = pads' ∧ marks = marks' := by
  refine ⟨fun h => ?_, fun ⟨hpads, hmarks⟩ => by rw [hpads, hmarks]⟩
  have hjoined : joinWith '/' (p.spelledComponents pads marks) =
      joinWith '/' (p.spelledComponents pads' marks') :=
    (List.cons.inj (List.cons.inj (String.ofList_injective h)).2).2
  have hcomponents : p.spelledComponents pads marks = p.spelledComponents pads' marks' :=
    (joinWith_inj (List.cons_ne_nil _ _) (List.cons_ne_nil _ _) slash_not_mem_of_mem_spelledComponents
      slash_not_mem_of_mem_spelledComponents).mp hjoined
  simp only [spelledComponents, List.cons.injEq, markedPadded_inj, Decimal.padded_inj] at hcomponents
  obtain ⟨⟨hpurpose, hm⟩, ⟨hcoin, hm'⟩, ⟨haccount, hm''⟩, hchain, hindex, -⟩ := hcomponents
  cases pads
  cases marks
  simp_all

/-! ## Apostrophes for markers -/

/-- The character, or an apostrophe for the other marker. -/
def apostropheFor (c : Char) : Char :=
  if c = 'h' then '\'' else c

/-- The text with an apostrophe for each of the other markers. -/
def withApostrophes (s : String) : String :=
  String.ofList (s.toList.map apostropheFor)

/-- Numbers have no markers in them. -/
theorem map_apostropheFor_padded (pad : Decimal.Padding) (n : Nat) :
    (Decimal.padded pad n).map apostropheFor = Decimal.padded pad n := by
  have hletter : 'h' ∉ Decimal.padded pad n :=
    not_mem_of_spells ((Decimal.spells_iff_padded _ n).mpr ⟨pad, rfl⟩) rfl (by decide)
  refine (List.map_congr_left fun c hc => ?_).trans (List.map_id _)
  have hc : c ≠ 'h' := fun h => hletter (h ▸ hc)
  exact if_neg hc

theorem map_apostropheFor_markedPadded (pad : Decimal.Padding) (marker : Marker) (n : UInt32) :
    (markedPadded pad marker n).map apostropheFor = markedPadded pad .apostrophe n := by
  rw [markedPadded, List.map_append, map_apostropheFor_padded]
  cases marker <;> rfl

/-- Apostrophes for the markers leave the paddings. -/
theorem withApostrophes_spelled (p : Path) (pads : Paddings) (marks : Markers) :
    withApostrophes (p.spelled pads marks) = p.spelled pads .apostrophes := by
  have hcomponents : (p.spelledComponents pads marks).map (List.map apostropheFor) =
      p.spelledComponents pads .apostrophes := by
    simp only [spelledComponents, List.map_cons, List.map_nil, map_apostropheFor_markedPadded,
      map_apostropheFor_padded]
    rfl
  rw [withApostrophes, spelled, String.toList_ofList, List.map_cons, List.map_cons,
    map_joinWith rfl, hcomponents]
  rfl

/-- **The written form is the only spelling but for markers and paddings.** A text is read as a path
exactly if it is a spelling of it. With apostrophes for its markers it is the written form exactly if no
number is padded, and it differs from another spelling in nothing but markers exactly if their paddings
are the same. -/
theorem parsed_up_to_padding (s : String) (p : Path) :
    (parse s = .ok p ↔ ∃ pads marks, s = p.spelled pads marks) ∧
    (∀ pads marks, s = p.spelled pads marks → (withApostrophes s = p.text ↔ pads = .none)) ∧
    (∀ pads marks pads' marks', s = p.spelled pads marks →
      (withApostrophes s = withApostrophes (p.spelled pads' marks') ↔ pads = pads')) := by
  refine ⟨parse_eq_ok_iff s p, ?_, ?_⟩
  · rintro pads marks rfl
    rw [withApostrophes_spelled, ← spelled_none, spelled_inj]
    exact and_iff_left rfl
  · rintro pads marks pads' marks' rfl
    rw [withApostrophes_spelled, withApostrophes_spelled, spelled_inj]
    exact and_iff_left rfl

/-- A sign in front of the purpose is read over, and the text is not that of the path. -/
theorem sign_read_over :
    parse "m/+84'/0'/0'/0/0" = .ok ⟨.nativeSegwit, 0, 0, .receive, 0⟩ ∧
      (Path.mk .nativeSegwit 0 0 .receive 0).text ≠ withApostrophes "m/+84'/0'/0'/0/0" ∧
      ¬∀ s p, parse s = .ok p → p.text = withApostrophes s := by
  have hparse : parse "m/+84'/0'/0'/0/0" = .ok ⟨.nativeSegwit, 0, 0, .receive, 0⟩ := by
    decide +kernel
  have htext : (Path.mk .nativeSegwit 0 0 .receive 0).text ≠ withApostrophes "m/+84'/0'/0'/0/0" := by
    decide +kernel
  exact ⟨hparse, htext, fun h => htext (h _ _ hparse)⟩

end Path

end SeedWallet
