import SeedWallet.Proofs.PlainText
import SeedWallet.Text.Blank
import SeedWallet.Text.Decomposition

/-!
# Words of a text

The words of a text are what stands between its blanks, and a blank falls apart into blanks when a text
is decomposed. So a text is decomposed word by word, and the words of its decomposition are known from
its own words: which blanks stand between them, and how many, makes no difference.

- `Text.words_append_cons`: a blank ends a word wherever it stands.
- `Text.words_intercalate`: words with blanks between them are the words of the whole.
- `Text.isBlank_of_mem_decomposeChar`: a blank decomposes into blanks.
- `Text.words_decompose`: words are decomposed one by one.
- `Text.Alike`: texts that differ in their blanks and in compatibility form only;
  `Text.Alike.words_decompose_eq` says that they have the same words when decomposed.
-/

namespace SeedWallet.Text

/-! ## Words and blanks -/

section

variable {c : Char} {cs w : List Char} {ws : List (List Char)}

theorem wordsFrom_cons_of_isBlank (h : isBlank c = true) :
    wordsFrom (c :: cs) = [] :: wordsFrom cs :=
  if_pos h

theorem wordsFrom_cons_of_nil (h : isBlank c = false) (hcs : wordsFrom cs = []) :
    wordsFrom (c :: cs) = [[c]] := by
  unfold wordsFrom at hcs ⊢
  rw [List.foldr_cons, hcs, h]
  rfl

theorem wordsFrom_cons_of_cons (h : isBlank c = false) (hcs : wordsFrom cs = w :: ws) :
    wordsFrom (c :: cs) = (c :: w) :: ws := by
  unfold wordsFrom at hcs ⊢
  rw [List.foldr_cons, hcs, h]
  rfl

end

/-- The pieces between single blanks, up to empty ones after the first. -/
theorem splitOnP_isBlank (cs : List Char) :
    (wordsFrom cs = [] ∧ cs.splitOnP isBlank = [[]]) ∨
      ∃ w ws vs, wordsFrom cs = w :: ws ∧ cs.splitOnP isBlank = w :: vs ∧
        ws.filter (fun w => !w.isEmpty) = vs.filter fun w => !w.isEmpty := by
  induction cs with
  | nil => exact .inl ⟨rfl, List.splitOnP_nil⟩
  | cons c cs ih =>
    rw [List.splitOnP_cons_eq_if_modifyHead]
    cases hblank : isBlank c with
    | true =>
      rw [wordsFrom_cons_of_isBlank hblank, if_pos rfl]
      refine .inr ⟨[], _, _, rfl, rfl, ?_⟩
      rcases ih with ⟨hnil, hsplit⟩ | ⟨w, ws, vs, hw, hv, hrest⟩
      · rw [hnil, hsplit]
        rfl
      · rw [hw, hv, List.filter_cons, List.filter_cons, hrest]
    | false =>
      rw [if_neg (by decide)]
      rcases ih with ⟨hnil, hsplit⟩ | ⟨w, ws, vs, hw, hv, hrest⟩
      · rw [wordsFrom_cons_of_nil hblank hnil, hsplit]
        exact .inr ⟨[c], [], [], rfl, rfl, rfl⟩
      · rw [wordsFrom_cons_of_cons hblank hw, hv]
        exact .inr ⟨c :: w, ws, vs, rfl, rfl, hrest⟩

/-- Words are the pieces between blanks that are not empty. -/
theorem words_eq (cs : List Char) :
    words cs = (cs.splitOnP isBlank).filter fun w => !w.isEmpty := by
  rw [words]
  rcases splitOnP_isBlank cs with ⟨hnil, hsplit⟩ | ⟨w, ws, vs, hw, hv, hrest⟩
  · rw [hnil, hsplit]
    rfl
  · rw [hw, hv, List.filter_cons, List.filter_cons, hrest]

@[simp] theorem words_nil : words [] = [] := rfl

/-- A blank ends a word wherever it stands. -/
theorem words_append_cons (as bs : List Char) {c : Char} (h : isBlank c = true) :
    words (as ++ c :: bs) = words as ++ words bs := by
  rw [words_eq, words_eq, words_eq, List.splitOnP_append_cons as bs h, List.filter_append]

/-- A text without blanks is one word. -/
theorem words_of_forall {w : List Char} (hw : w ≠ []) (h : ∀ c ∈ w, isBlank c = false) :
    words w = [w] := by
  rw [words_eq, List.splitOnP_eq_singleton h]
  simpa using hw

/-- Blanks in front do not count. -/
theorem words_blanks_append (cs : List Char) {bs : List Char} (h : ∀ b ∈ bs, isBlank b = true) :
    words (bs ++ cs) = words cs := by
  induction bs with
  | nil => rfl
  | cons b bs ih =>
    rw [List.forall_mem_cons] at h
    have hfirst := words_append_cons [] (bs ++ cs) h.1
    rw [List.nil_append, words_nil, List.nil_append] at hfirst
    rw [List.cons_append, hfirst, ih h.2]

/-- Any number of blanks ends a word. -/
theorem words_append_blanks (as cs : List Char) {bs : List Char} (hne : bs ≠ [])
    (h : ∀ b ∈ bs, isBlank b = true) : words (as ++ bs ++ cs) = words as ++ words cs := by
  obtain ⟨b, rest, rfl⟩ := List.exists_cons_of_ne_nil hne
  rw [List.forall_mem_cons] at h
  rw [List.append_assoc, List.cons_append, words_append_cons as _ h.1, words_blanks_append cs h.2]

/-- Words with blanks between them are the words of the whole. -/
theorem words_intercalate {ws : List (List Char)}
    (h : ∀ w ∈ ws, w ≠ [] ∧ ∀ c ∈ w, isBlank c = false) : words ([' '].intercalate ws) = ws := by
  induction ws with
  | nil => rfl
  | cons w ws ih =>
    rw [List.forall_mem_cons] at h
    obtain ⟨⟨hne, hw⟩, hws⟩ := h
    cases ws with
    | nil => rw [List.intercalate_singleton, words_of_forall hne hw]
    | cons v vs =>
      rw [List.intercalate_cons_cons, List.append_assoc, List.singleton_append,
        words_append_cons w _ (by decide), words_of_forall hne hw, ih hws, List.singleton_append]

/-- What holds of words and of two texts with a blank between them holds of every text. -/
theorem blank_induction {P : List Char → Prop} (hword : ∀ w, (∀ c ∈ w, isBlank c = false) → P w)
    (hblank : ∀ as b bs, isBlank b = true → P as → P bs → P (as ++ b :: bs)) (cs : List Char) :
    P cs := by
  induction hn : cs.length using Nat.strongRecOn generalizing cs with
  | ind n ih =>
    by_cases h : ∃ b ∈ cs, isBlank b = true
    · obtain ⟨b, hb, hisBlank⟩ := h
      obtain ⟨as, bs, rfl⟩ := List.append_of_mem hb
      rw [List.length_append, List.length_cons] at hn
      exact hblank as b bs hisBlank (ih as.length (by omega) as rfl) (ih bs.length (by omega) bs rfl)
    · exact hword cs fun c hc => Bool.eq_false_iff.mpr fun hisBlank => h ⟨c, hc, hisBlank⟩

/-- A word is not empty and has no blanks. -/
theorem word_of_mem_words (cs : List Char) :
    ∀ w ∈ words cs, w ≠ [] ∧ ∀ c ∈ w, isBlank c = false := by
  induction cs using blank_induction with
  | hword w hw =>
    by_cases hne : w = []
    · rw [hne, words_nil]
      simp
    · rw [words_of_forall hne hw]
      simpa using ⟨hne, hw⟩
  | hblank as b bs hb has hbs =>
    rw [words_append_cons as bs hb]
    exact List.forall_mem_append.mpr ⟨has, hbs⟩

/-- What is put together of the parts around each blank is put together word by word. -/
theorem eq_flatMap_words {β : Type} {f : List Char → List β} (hnil : f [] = [])
    (hblank : ∀ as b bs, isBlank b = true → f (as ++ b :: bs) = f as ++ f bs) (cs : List Char) :
    f cs = (words cs).flatMap f := by
  induction cs using blank_induction with
  | hword w hw =>
    by_cases hne : w = []
    · rw [hne, hnil]
      rfl
    · rw [words_of_forall hne hw, List.flatMap_cons, List.flatMap_nil, List.append_nil]
  | hblank as b bs hb has hbs =>
    rw [hblank as b bs hb, words_append_cons as bs hb, List.flatMap_append, ← has, ← hbs]

/-! ## Decomposition around a character that starts anew -/

theorem insertMark_of_starter {d : Char} (h : combiningClass d = 0) (cs : List Char) :
    insertMark d cs = d :: cs := by
  cases cs with
  | nil => rfl
  | cons c cs =>
    rw [insertMark, if_neg]
    rw [h]
    omega

/-- No mark moves past a character that starts anew. -/
theorem insertMark_append_starter {d : Char} (h : combiningClass d = 0) (c : Char)
    (as bs : List Char) : insertMark c (as ++ d :: bs) = insertMark c as ++ d :: bs := by
  induction as with
  | nil =>
    show insertMark c (d :: bs) = c :: d :: bs
    rw [insertMark, if_neg]
    rw [h]
    omega
  | cons a as ih =>
    rw [List.cons_append, insertMark, insertMark, ih]
    split <;> rfl

theorem orderMarks_append_starter {d : Char} (h : combiningClass d = 0) (as bs : List Char) :
    orderMarks (as ++ d :: bs) = orderMarks as ++ d :: orderMarks bs := by
  induction as with
  | nil => exact insertMark_of_starter h _
  | cons a as ih =>
    have hleft : orderMarks (a :: as ++ d :: bs) = insertMark a (orderMarks (as ++ d :: bs)) := rfl
    rw [hleft, ih, insertMark_append_starter h]
    rfl

/-- Marks are put into order on both sides of characters that start anew. -/
theorem orderMarks_append_starters {ds : List Char} (hne : ds ≠ [])
    (h : ∀ d ∈ ds, combiningClass d = 0) (as bs : List Char) :
    orderMarks (as ++ ds ++ bs) = orderMarks as ++ ds ++ orderMarks bs := by
  induction ds generalizing as with
  | nil => exact absurd rfl hne
  | cons d ds ih =>
    rw [List.forall_mem_cons] at h
    rw [List.append_assoc, List.cons_append, orderMarks_append_starter h.1]
    by_cases hds : ds = []
    · rw [hds]
      simp
    · have hrest := ih hds h.2 []
      rw [List.nil_append] at hrest
      rw [hrest]
      simp [orderMarks]

/-! ## Blanks -/

/-- The entries of rows that are given as characters. -/
def rowEntries (rows : List (List Char)) : List (Nat × List Char) :=
  rows.flatMap fun row => (splitOn ' ' row).flatMap Decomposition.entries

/-- The decomposition of a blank is made of blanks. Past the last blank there is nothing to look at. -/
def blankEntry (e : Nat × List Char) : Bool :=
  decide (0x3000 < e.1) || !isBlank (Char.ofNat e.1) || (!e.2.isEmpty && e.2.all isBlank)

theorem blankEntry_of_mem_table : ∀ e ∈ Decomposition.table, blankEntry e = true := by
  have hrows : (rowEntries (Decomposition.rows.map String.toList)).all blankEntry = true := by
    apply toList_of_spelled (P := fun rows => (rowEntries rows).all blankEntry = true)
    · unfold Decomposition.rows
      repeat' constructor
    · decide +kernel
  rw [rowEntries, List.flatMap_map] at hrows
  exact List.all_eq_true.mp hrows

theorem toNat_le_of_isBlank {c : Char} (h : isBlank c = true) : c.toNat ≤ 0x3000 := by
  simp only [isBlank, Bool.or_eq_true, Bool.and_eq_true, decide_eq_true_eq, beq_iff_eq] at h
  omega

/-- Blanks start anew. -/
theorem combiningClass_of_isBlank {c : Char} (h : isBlank c = true) : combiningClass c = 0 := by
  have hruns : ∀ r ∈ Decomposition.combiningRuns, 0x3000 < r.1 ∨
      ∀ n ∈ List.range' r.1 (r.2.1 + 1 - r.1), isBlank (Char.ofNat n) = false := by
    decide +kernel
  unfold combiningClass
  dsimp only
  split
  · rfl
  · split
    · rename_i r hr
      obtain ⟨hfrom, hto⟩ : r.1 ≤ c.toNat ∧ c.toNat ≤ r.2.1 := by
        simpa using List.find?_some hr
      rcases hruns r (List.mem_of_find?_eq_some hr) with hpast | hnone
      · have := toNat_le_of_isBlank h
        omega
      · have hc := hnone c.toNat (List.mem_range'_1.mpr ⟨hfrom, by omega⟩)
        rw [Char.ofNat_toNat, h] at hc
        cases hc
    · rfl

/-- A blank decomposes into blanks. -/
theorem isBlank_of_mem_decomposeChar {c : Char} (h : isBlank c = true) :
    decomposeChar c ≠ [] ∧ ∀ d ∈ decomposeChar c, isBlank d = true := by
  have hself : [c] ≠ [] ∧ ∀ d ∈ [c], isBlank d = true := by simpa using h
  have hle := toNat_le_of_isBlank h
  unfold decomposeChar
  dsimp only
  split
  · exact hself
  · rw [if_neg (by omega)]
    cases hlookup : Decomposition.table.lookup c.toNat with
    | none => exact hself
    | some ds =>
      obtain ⟨front, back, htable, -⟩ := List.lookup_eq_some_iff.mp hlookup
      have hentry := blankEntry_of_mem_table (c.toNat, ds) (by simp [htable])
      have hpast : decide (0x3000 < c.toNat) = false := decide_eq_false (by omega)
      simpa [blankEntry, hpast, Char.ofNat_toNat, h] using hentry

/-! ## Words of a decomposition -/

/-- A text is decomposed on both sides of a blank. -/
theorem decompose_append_cons (as bs : List Char) {b : Char} (h : isBlank b = true) :
    decompose (as ++ b :: bs) = decompose as ++ decomposeChar b ++ decompose bs := by
  obtain ⟨hne, hblanks⟩ := isBlank_of_mem_decomposeChar h
  have hstarters : ∀ d ∈ decomposeChar b, combiningClass d = 0 :=
    fun d hd => combiningClass_of_isBlank (hblanks d hd)
  rw [decompose, List.flatMap_append, List.flatMap_cons, ← List.append_assoc,
    orderMarks_append_starters hne hstarters]
  rfl

/-- Words are decomposed one by one. -/
theorem words_decompose (cs : List Char) :
    words (decompose cs) = (words cs).flatMap fun w => words (decompose w) := by
  apply eq_flatMap_words (f := fun cs => words (decompose cs))
  · rfl
  · intro as b bs h
    obtain ⟨hne, hblanks⟩ := isBlank_of_mem_decomposeChar h
    show words (decompose (as ++ b :: bs)) = _
    rw [decompose_append_cons as bs h, words_append_blanks _ _ hne hblanks]

/-- Texts that differ in their blanks and in compatibility form only: one becomes the other by steps
that keep the words, or that keep the decomposition. -/
inductive Alike : List Char → List Char → Prop
  | blanks {as bs : List Char} (h : words as = words bs) : Alike as bs
  | form {as bs : List Char} (h : decompose as = decompose bs) : Alike as bs
  | trans {as bs cs : List Char} (h : Alike as bs) (h' : Alike bs cs) : Alike as cs

/-- Such texts have the same words when they are decomposed. -/
theorem Alike.words_decompose_eq {as bs : List Char} (h : Alike as bs) :
    words (decompose as) = words (decompose bs) := by
  induction h with
  | blanks h => rw [words_decompose, words_decompose, h]
  | form h => rw [h]
  | trans _ _ ih ih' => rw [ih, ih']

end SeedWallet.Text
