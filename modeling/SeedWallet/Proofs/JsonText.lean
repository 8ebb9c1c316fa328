import SeedWallet.Json.Reader
import SeedWallet.Proofs.Numerals

/-!
# Written JSON is read back

A value of constants, natural numbers and texts is read back from its text, on one line or over several. A
character of a string is read as one part, whether it is escaped or not; digits end where a value ends,
since only blanks and the signs that close or separate values come next; and the first character of a
value tells what it is. The two forms differ in the blanks between the parts only.

- `Json.readText_escaped`: a quoted text is read as that text.
- `Json.readNumber_digits`: the digits of a natural number are read as that number.
- `Json.Plain`: the values that are meant.
- `Json.IsRead`: characters that are read as a value, whatever follows them.
- `Json.isRead_array`, `Json.isRead_object`: parts that are read make a value that is read.
- `Json.isRead_chars`, `Json.isRead_prettyChars`: a written value is read as that value.
- `Json.read?_compact`, `Json.read?_pretty`: so is one that is the whole text.
-/

namespace SeedWallet.Json

/-! ## Strings -/

theorem hexUnit?_digits {n : Nat} (h : n < 32) :
    hexUnit? '0' '0' (Hex.digit (n / 16)) (Hex.digit (n % 16)) = some n := by
  have hzero : Hex.value? '0'.toNat = some 0 := rfl
  rw [hexUnit?, hzero, Hex.value?_digit (show n / 16 < 16 by omega),
    Hex.value?_digit (show n % 16 < 16 by omega)]
  simp only [Option.bind_eq_bind, Option.bind_some, Option.pure_def, Option.some.injEq]
  omega

/-- A character that is no quote, backslash or control character stands for itself. -/
theorem readPieces_cons {c : Char} (hquote : c ≠ '"') (hescape : c ≠ '\\') (hcontrol : ¬ c.toNat < 32)
    (rest : List Char) :
    readPieces (c :: rest) = (readPieces rest).map fun r => (.char c :: r.1, r.2) := by
  rw [readPieces.eq_def]
  split
  · rename_i heq
    cases heq
  · rename_i heq
    cases heq
    exact absurd rfl hquote
  · rename_i heq
    cases heq
    exact absurd rfl hescape
  · rename_i heq
    cases heq
    exact absurd rfl hescape
  · rename_i heq
    cases heq
    exact if_neg hcontrol

/-- A number that is no half of a surrogate pair is a character by itself. -/
theorem joinPieces_unit {n : Nat} (h : n < 0xd800) (ps : List Piece) :
    joinPieces (.unit n :: ps) = (joinPieces ps).map (Char.ofNat n :: ·) := by
  have hhalf : ¬ (0xd800 ≤ n ∧ n < 0xe000) := by omega
  cases ps with
  | nil => simp [joinPieces, hhalf]
  | cons p ps =>
    cases p with
    | char c => simp [joinPieces, hhalf]
    | unit l => rw [joinPieces, if_neg (by omega), if_neg (by omega)]

/-- What is written for a character is read as one part, which stands for the character. -/
theorem exists_piece (c : Char) :
    ∃ p, (∀ rest, readPieces (escape c ++ rest) =
        (readPieces rest).map fun r => (p :: r.1, r.2)) ∧
      ∀ ps, joinPieces (p :: ps) = (joinPieces ps).map (c :: ·) := by
  unfold escape
  split
  -- a letter after a backslash
  iterate 7 exact ⟨.char _, fun rest => rfl, fun ps => rfl⟩
  rename_i hquote hescape _ _ _ _ _
  by_cases hcontrol : c.toNat < 32
  · refine ⟨.unit c.toNat, fun rest => ?_, fun ps => ?_⟩
    · rw [if_pos hcontrol]
      simp only [List.cons_append, List.nil_append]
      rw [readPieces, hexUnit?_digits hcontrol]
    · rw [joinPieces_unit (by omega), Char.ofNat_toNat]
  · refine ⟨.char c, fun rest => ?_, fun ps => rfl⟩
    rw [if_neg hcontrol]
    exact readPieces_cons hquote hescape hcontrol rest

theorem exists_pieces (cs rest : List Char) :
    ∃ ps, readPieces (cs.flatMap escape ++ '"' :: rest) = some (ps, rest) ∧
      joinPieces ps = some cs := by
  induction cs with
  | nil => exact ⟨[], rfl, rfl⟩
  | cons c cs ih =>
    obtain ⟨ps, hread, hjoin⟩ := ih
    obtain ⟨p, hpiece, hchar⟩ := exists_piece c
    refine ⟨p :: ps, ?_, ?_⟩
    · rw [List.flatMap_cons, List.append_assoc, hpiece, hread]
      rfl
    · rw [hchar, hjoin]
      rfl

/-- A quoted text is read as that text. -/
theorem readText_escaped (s : String) (rest : List Char) :
    readText (s.toList.flatMap escape ++ '"' :: rest) = some (some s, rest) := by
  obtain ⟨ps, hread, hjoin⟩ := exists_pieces s.toList rest
  rw [readText, hread, Option.map_some, hjoin, Option.map_some, String.ofList_toList]

theorem quoted_append (s : String) (rest : List Char) :
    quoted (some s) ++ rest = '"' :: (s.toList.flatMap escape ++ '"' :: rest) := by
  simp [quoted]

/-! ## Blanks -/

theorem skipBlanks_cons {c : Char} (h : isBlank c = false) (cs : List Char) :
    skipBlanks (c :: cs) = c :: cs := by
  simp [skipBlanks, h]

/-- Nothing but blanks. -/
def AllBlank (bs : List Char) : Prop :=
  ∀ c ∈ bs, isBlank c = true

theorem allBlank_nil : AllBlank [] := fun _ => nofun

theorem allBlank_space : AllBlank [' '] := by
  intro c hc
  cases List.mem_singleton.mp hc
  rfl

theorem allBlank_newLine (level : Nat) : AllBlank (newLine level) := by
  intro c hc
  rcases List.mem_cons.mp hc with rfl | hc
  · rfl
  · rw [List.eq_of_mem_replicate hc]
    rfl

theorem skipBlanks_append {bs : List Char} (h : AllBlank bs) (cs : List Char) :
    skipBlanks (bs ++ cs) = skipBlanks cs :=
  List.dropWhile_append_of_pos h

theorem not_isBlank_of_isDigit {c : Char} (h : c.isDigit = true) : isBlank c = false := by
  have hne (d : Char) (hd : d.isDigit = false) : (c == d) = false :=
    beq_eq_false_iff_ne.mpr (Decimal.ne_of_isDigit h hd)
  simp [isBlank, hne]

/-- No sign of the format is a blank. -/
theorem not_isBlank_of_sign {c : Char} (h : c ∈ ['"', ':', ',', '[', ']', '\x7b', '\x7d']) :
    isBlank c = false := by
  simp only [List.mem_cons, List.not_mem_nil, or_false] at h
  rcases h with rfl | rfl | rfl | rfl | rfl | rfl | rfl <;> rfl

/-! ## Numbers -/

/-- What may follow a value: nothing, a new line, or a sign that closes or separates values. -/
def Follows (rest : List Char) : Prop :=
  ∀ c ∈ rest.head?, c ∈ [',', ']', '\x7d', '\n']

theorem follows_nil : Follows [] := by
  intro c hc
  cases hc

theorem follows_cons {c : Char} (h : c ∈ [',', ']', '\x7d', '\n']) (rest : List Char) :
    Follows (c :: rest) := by
  intro d hd
  cases hd
  exact h

/-- Nothing or one of the four signs is in front. -/
theorem follows_cases {rest : List Char} (h : Follows rest) :
    rest = [] ∨ ∃ cs, rest = ',' :: cs ∨ rest = ']' :: cs ∨ rest = '\x7d' :: cs ∨ rest = '\n' :: cs := by
  cases rest with
  | nil => exact .inl rfl
  | cons c cs =>
    have hc := h c rfl
    simp only [List.mem_cons, List.not_mem_nil, or_false] at hc
    rcases hc with rfl | rfl | rfl | rfl
    · exact .inr ⟨cs, .inl rfl⟩
    · exact .inr ⟨cs, .inr (.inl rfl)⟩
    · exact .inr ⟨cs, .inr (.inr (.inl rfl))⟩
    · exact .inr ⟨cs, .inr (.inr (.inr rfl))⟩

section

variable {rest : List Char} (hrest : Follows rest)

include hrest

/-- Digits end where a value ends. -/
theorem spanDigits_append {ds : List Char} (hdigits : ∀ c ∈ ds, c.isDigit = true) :
    spanDigits (ds ++ rest) = (ds, rest) := by
  have hstop : rest.takeWhile Char.isDigit = [] ∧ rest.dropWhile Char.isDigit = rest := by
    rcases follows_cases hrest with rfl | ⟨cs, rfl | rfl | rfl | rfl⟩ <;> exact ⟨rfl, rfl⟩
  rw [spanDigits, List.takeWhile_append_of_pos hdigits, List.dropWhile_append_of_pos hdigits,
    hstop.1, hstop.2, List.append_nil]

theorem readWhole_digits (n : Nat) :
    readWhole (Decimal.digits n ++ rest) = some (Decimal.digits n, rest) := by
  by_cases hzero : n = 0
  · -- a zero is the whole number, so what follows it is looked at
    subst hzero
    rcases follows_cases hrest with rfl | ⟨cs, rfl | rfl | rfl | rfl⟩ <;> rfl
  · obtain ⟨c, cs, hcs, -⟩ := Decimal.exists_digits_eq_cons n
    have hc : c ≠ '0' := by
      rintro rfl
      exact Decimal.head?_digits_ne_zero hzero (by rw [hcs]; rfl)
    have hspan : spanDigits (Decimal.digits n ++ rest) = (Decimal.digits n, rest) :=
      spanDigits_append hrest fun _ => Decimal.isDigit_of_mem_digits
    rw [hcs, List.cons_append] at hspan
    rw [hcs, List.cons_append, readWhole]
    · simp only [hspan]
    · rintro rest' heq
      cases heq
      exact hc rfl

theorem readFraction_of_follows : readFraction rest = some ([], rest) := by
  rcases follows_cases hrest with rfl | ⟨cs, rfl | rfl | rfl | rfl⟩ <;> rfl

theorem readExponent_of_follows : readExponent rest = some ([], rest) := by
  rcases follows_cases hrest with rfl | ⟨cs, rfl | rfl | rfl | rfl⟩ <;> rfl

/-- The digits of a natural number are read as that number. -/
theorem readNumber_digits (n : Nat) :
    readNumber (Decimal.digits n ++ rest) = some (.natural n, rest) := by
  have hwhole := readWhole_digits hrest n
  have hvalue := Decimal.ofDigitChars_digits n
  obtain ⟨c, cs, hcs, hdigit⟩ := Decimal.exists_digits_eq_cons n
  rw [hcs] at hwhole hvalue
  rw [hcs, readNumber]
  · simp only [hwhole, Option.bind_eq_bind, Option.bind_some, readFraction_of_follows hrest,
      readExponent_of_follows hrest]
    simp [hvalue]
  · -- a digit is no sign
    rintro rest' heq
    cases heq
    exact absurd hdigit (by decide)

end

/-- No other value begins with a digit. -/
theorem readValue_of_isDigit {c : Char} (h : c.isDigit = true) (bound : Nat) (cs : List Char) :
    readValue (bound + 1) (c :: cs) = readNumber (c :: cs) := by
  rw [readValue, skipBlanks_cons (not_isBlank_of_isDigit h)]
  split
  iterate 6
    rename_i heq
    cases heq
    exact absurd h (by decide)
  rfl

/-! ## Values -/

/-- A value of constants, natural numbers and texts: nothing in it is kept by its spelling, and no
string is less than a text. -/
inductive Plain : Json → Prop
  | null : Plain .null
  | bool (b : Bool) : Plain (.bool b)
  | natural (n : Nat) : Plain (.natural n)
  | text (s : String) : Plain (.ofText s)
  | array {xs : List Json} (h : ∀ x ∈ xs, Plain x) : Plain (.array xs)
  | object {ms : List (Option String × Json)} (hname : ∀ m ∈ ms, m.1.isSome)
      (h : ∀ m ∈ ms, Plain m.2) : Plain (.object ms)

/-- Whether the characters are read as the value, whatever follows them. Every second call takes a
character, so twice their number is bound enough. -/
def IsRead (j : Json) (cs : List Char) : Prop :=
  ∀ bound rest, 2 * cs.length ≤ bound → Follows rest → readValue bound (cs ++ rest) = some (j, rest)

/-- Blanks in front of a value do not count. -/
theorem IsRead.append {j : Json} {bs cs : List Char} (hbs : AllBlank bs) (h : IsRead j cs) :
    IsRead j (bs ++ cs) := by
  intro bound rest hbound hrest
  rw [List.length_append] at hbound
  have hread := h bound rest (by omega) hrest
  cases bound with
  | zero => exact hread
  | succ bound =>
    rw [readValue] at hread
    rwa [readValue, List.append_assoc, skipBlanks_append hbs]

/-- No value begins with the bracket that closes an array. -/
theorem IsRead.skipBlanks_ne {j : Json} {cs : List Char} (h : IsRead j cs) {rest : List Char}
    (hrest : Follows rest) (more : List Char) : skipBlanks (cs ++ rest) ≠ ']' :: more := by
  intro hclose
  have hread := h (2 * cs.length + 1) rest (by omega) hrest
  rw [readValue, hclose] at hread
  cases hread

/-! ### Reading a value of each kind -/

/-- A value without parts needs no bound but one. -/
theorem isRead_of_succ {j : Json} {cs : List Char} (hne : cs ≠ [])
    (h : ∀ bound rest, Follows rest → readValue (bound + 1) (cs ++ rest) = some (j, rest)) :
    IsRead j cs := by
  intro bound rest hbound hrest
  have hpos := List.length_pos_of_ne_nil hne
  obtain ⟨bound, rfl⟩ : ∃ b, bound = b + 1 := ⟨bound - 1, by omega⟩
  exact h bound rest hrest

theorem isRead_natural (n : Nat) : IsRead (.natural n) (Decimal.digits n) := by
  obtain ⟨c, cs, hcs, hdigit⟩ := Decimal.exists_digits_eq_cons n
  refine isRead_of_succ (by rw [hcs]; simp) fun bound rest hrest => ?_
  have hread := readNumber_digits hrest n
  rw [hcs] at hread ⊢
  rw [List.cons_append, readValue_of_isDigit hdigit]
  exact hread

theorem isRead_ofText (s : String) : IsRead (.ofText s) (quoted (some s)) := by
  refine isRead_of_succ (List.cons_ne_nil _ _) fun bound rest hrest => ?_
  rw [quoted_append, readValue, skipBlanks_cons (not_isBlank_of_sign (by simp))]
  simp only [readText_escaped]
  rfl

/-! ### Reading what has parts -/

/-- Texts with commas between them. -/
def joined : List (List Char) → List Char
  | [] => []
  | [t] => t
  | t :: ts => t ++ ',' :: joined ts

theorem joined_cons_cons (t u : List Char) (ts : List (List Char)) :
    joined (t :: u :: ts) = t ++ ',' :: joined (u :: ts) := rfl

/-- They begin with the first of them. -/
theorem exists_joined_cons (t : List Char) (ts : List (List Char)) :
    ∃ cs, joined (t :: ts) = t ++ cs := by
  cases ts with
  | nil => exact ⟨[], (List.append_nil t).symm⟩
  | cons u ts => exact ⟨',' :: joined (u :: ts), rfl⟩

/-- A bracket opens an array, whose values are read unless it is closed at once. -/
theorem readValue_bracket {cs : List Char} (h : ∀ more, skipBlanks cs ≠ ']' :: more) (bound : Nat) :
    readValue (bound + 1) ('[' :: cs) = (readElements bound cs).map fun r => (.array r.1, r.2) := by
  rw [readValue, skipBlanks_cons (not_isBlank_of_sign (by simp))]
  -- of all signs that a value may begin with only the bracket is the one in front
  split
  case h_5 rest heq =>
    obtain rfl : cs = rest := List.tail_eq_of_cons_eq heq
    split
    case h_1 hclose => exact absurd hclose (h _)
    case h_2 => rfl
  all_goals simp_all

/-- A brace opens an object, whose members are read unless it is closed at once. -/
theorem readValue_brace {cs : List Char} (h : ∀ more, skipBlanks cs ≠ '\x7d' :: more) (bound : Nat) :
    readValue (bound + 1) ('\x7b' :: cs) =
      (readMembers bound cs).map fun r => (.object r.1, r.2) := by
  rw [readValue, skipBlanks_cons (not_isBlank_of_sign (by simp))]
  split
  case h_6 rest heq =>
    obtain rfl : cs = rest := List.tail_eq_of_cons_eq heq
    split
    case h_1 hclose => exact absurd hclose (h _)
    case h_2 => rfl
  all_goals simp_all

section

variable {bs : List Char} (hbs : bs = [] ∨ ∃ level, bs = newLine level)

include hbs

theorem allBlank_of_layout : AllBlank bs := by
  rcases hbs with rfl | ⟨level, rfl⟩
  · exact allBlank_nil
  · exact allBlank_newLine level

/-- The sign that closes a value follows its last part, at once or on a line of its own. -/
theorem follows_layout {c : Char} (h : c ∈ [',', ']', '\x7d', '\n']) (rest : List Char) :
    Follows (bs ++ c :: rest) := by
  rcases hbs with rfl | ⟨level, rfl⟩
  · exact follows_cons h rest
  · exact follows_cons (by simp) _

variable {text : Json → List Char}

theorem readElements_of_isRead {xs : List Json} (hne : xs ≠ []) (h : ∀ x ∈ xs, IsRead x (text x))
    {bound : Nat} (hbound : 2 * (joined (xs.map text)).length < bound) (rest : List Char) :
    readElements bound (joined (xs.map text) ++ (bs ++ ']' :: rest)) = some (xs, rest) := by
  induction xs generalizing bound with
  | nil => exact absurd rfl hne
  | cons x xs ih =>
    obtain ⟨bound, rfl⟩ : ∃ b, bound = b + 1 := ⟨bound - 1, by omega⟩
    rw [List.forall_mem_cons] at h
    cases xs with
    | nil =>
      rw [List.map_singleton, joined] at hbound ⊢
      rw [readElements, h.1 bound _ (by omega) (follows_layout hbs (by simp) rest)]
      simp only [skipBlanks_append (allBlank_of_layout hbs),
        skipBlanks_cons (not_isBlank_of_sign (c := ']') (by simp))]
    | cons y ys =>
      rw [List.map_cons, List.map_cons, joined_cons_cons, ← List.map_cons] at hbound ⊢
      rw [List.length_append, List.length_cons] at hbound
      have hx := h.1 bound (',' :: (joined ((y :: ys).map text) ++ (bs ++ ']' :: rest))) (by omega)
        (follows_cons (by simp) _)
      have hys : readElements bound (joined ((y :: ys).map text) ++ (bs ++ ']' :: rest)) =
          some (y :: ys, rest) := ih (List.cons_ne_nil _ _) h.2 (by omega)
      rw [List.append_assoc, List.cons_append, readElements, hx]
      simp only [skipBlanks_cons (not_isBlank_of_sign (c := ',') (by simp)), hys]
      rfl

/-- The bracket after an array's values closes it. -/
theorem isRead_array {xs : List Json} (hne : xs ≠ []) (h : ∀ x ∈ xs, IsRead x (text x)) :
    IsRead (.array xs) ('[' :: (joined (xs.map text) ++ bs ++ [']'])) := by
  intro bound rest hbound hrest
  simp only [List.length_cons, List.length_append] at hbound
  obtain ⟨bound, rfl⟩ : ∃ b, bound = b + 1 := ⟨bound - 1, by omega⟩
  have hread : readElements bound (joined (xs.map text) ++ (bs ++ ']' :: rest)) = some (xs, rest) :=
    readElements_of_isRead hbs hne h (by omega) rest
  -- the first value keeps the bracket from being the one of an empty array
  have hopen : ∀ more, skipBlanks (joined (xs.map text) ++ (bs ++ ']' :: rest)) ≠ ']' :: more := by
    obtain ⟨x, xs, rfl⟩ := List.exists_cons_of_ne_nil hne
    rw [List.forall_mem_cons] at h
    cases xs with
    | nil => exact h.1.skipBlanks_ne (follows_layout hbs (by simp) rest)
    | cons y ys =>
      rw [List.map_cons, List.map_cons, joined_cons_cons, List.append_assoc]
      exact h.1.skipBlanks_ne (follows_cons (by simp) _)
  rw [List.cons_append, List.append_assoc, List.append_assoc, List.singleton_append,
    readValue_bracket hopen, hread]
  rfl

end

/-- A member: its name in quotes, a colon and its value, with blanks in front of both. -/
structure IsMember (m : Option String × Json) (cs : List Char) : Prop where
  name : m.1.isSome
  parts : ∃ bs t, AllBlank bs ∧ IsRead m.2 t ∧ cs = bs ++ quoted m.1 ++ ':' :: t

/-- A member begins with a quote. -/
theorem IsMember.skipBlanks_ne {m : Option String × Json} {cs : List Char} (h : IsMember m cs)
    (rest more : List Char) : skipBlanks (cs ++ rest) ≠ '\x7d' :: more := by
  obtain ⟨hname, bs, t, hbs, -, rfl⟩ := h
  obtain ⟨name, hm⟩ := Option.isSome_iff_exists.mp hname
  rw [hm, List.append_assoc, List.append_assoc, quoted_append, skipBlanks_append hbs,
    skipBlanks_cons (not_isBlank_of_sign (by simp))]
  simp

section

variable {bs : List Char} (hbs : bs = [] ∨ ∃ level, bs = newLine level)
  {text : Option String × Json → List Char}

include hbs

theorem readMembers_of_isMember {ms : List (Option String × Json)} (hne : ms ≠ [])
    (h : ∀ m ∈ ms, IsMember m (text m)) {bound : Nat}
    (hbound : 2 * (joined (ms.map text)).length < bound) (rest : List Char) :
    readMembers bound (joined (ms.map text) ++ (bs ++ '\x7d' :: rest)) = some (ms, rest) := by
  induction ms generalizing bound with
  | nil => exact absurd rfl hne
  | cons m ms ih =>
    obtain ⟨bound, rfl⟩ : ∃ b, bound = b + 1 := ⟨bound - 1, by omega⟩
    rw [List.forall_mem_cons] at h
    obtain ⟨⟨hname, front, t, hfront, ht, htext⟩, hms⟩ := h
    obtain ⟨name, x⟩ := m
    obtain ⟨name, rfl⟩ := Option.isSome_iff_exists.mp hname
    have hquote := skipBlanks_cons (not_isBlank_of_sign (c := '"') (by simp))
    have hcolon := skipBlanks_cons (not_isBlank_of_sign (c := ':') (by simp))
    cases ms with
    | nil =>
      rw [List.map_singleton, joined, htext] at hbound ⊢
      simp only [List.length_append, List.length_cons] at hbound
      have hread := ht bound (bs ++ '\x7d' :: rest) (by omega) (follows_layout hbs (by simp) rest)
      rw [List.append_assoc, List.append_assoc, quoted_append, readMembers, skipBlanks_append hfront]
      simp only [hquote, readText_escaped, hcolon, List.cons_append, hread,
        skipBlanks_append (allBlank_of_layout hbs),
        skipBlanks_cons (not_isBlank_of_sign (c := '\x7d') (by simp))]
    | cons m ms =>
      rw [List.map_cons, List.map_cons, joined_cons_cons, ← List.map_cons, htext] at hbound ⊢
      simp only [List.length_append, List.length_cons] at hbound
      have hread := ht bound (',' :: (joined ((m :: ms).map text) ++ (bs ++ '\x7d' :: rest))) (by omega)
        (follows_cons (by simp) _)
      have hothers : readMembers bound (joined ((m :: ms).map text) ++ (bs ++ '\x7d' :: rest)) =
          some (m :: ms, rest) := ih (List.cons_ne_nil _ _) hms (by omega)
      simp only [List.append_assoc, List.cons_append]
      rw [quoted_append, readMembers, skipBlanks_append hfront]
      simp only [hquote, readText_escaped, hcolon, hread,
        skipBlanks_cons (not_isBlank_of_sign (c := ',') (by simp)), hothers]
      rfl

/-- The brace after an object's members closes it. -/
theorem isRead_object {ms : List (Option String × Json)} (hne : ms ≠ [])
    (h : ∀ m ∈ ms, IsMember m (text m)) :
    IsRead (.object ms) ('\x7b' :: (joined (ms.map text) ++ bs ++ ['\x7d'])) := by
  intro bound rest hbound hrest
  simp only [List.length_cons, List.length_append] at hbound
  obtain ⟨bound, rfl⟩ : ∃ b, bound = b + 1 := ⟨bound - 1, by omega⟩
  have hread : readMembers bound (joined (ms.map text) ++ (bs ++ '\x7d' :: rest)) = some (ms, rest) :=
    readMembers_of_isMember hbs hne h (by omega) rest
  -- a member begins with the quote of its name
  have hopen : ∀ more, skipBlanks (joined (ms.map text) ++ (bs ++ '\x7d' :: rest)) ≠
      '\x7d' :: more := by
    obtain ⟨m, ms, rfl⟩ := List.exists_cons_of_ne_nil hne
    obtain ⟨cs, hcs⟩ := exists_joined_cons (text m) (ms.map text)
    rw [List.map_cons, hcs, List.append_assoc]
    exact (h m (List.mem_cons_self ..)).skipBlanks_ne _
  rw [List.cons_append, List.append_assoc, List.append_assoc, List.singleton_append,
    readValue_brace hopen, hread]
  rfl

end

/-! ### The two forms -/

theorem elementChars_eq (xs : List Json) : elementChars xs = joined (xs.map chars) := by
  induction xs with
  | nil => rfl
  | cons x xs ih =>
    cases xs with
    | nil => rfl
    | cons y ys => rw [elementChars, ih] <;> simp [joined_cons_cons]

theorem memberChars_eq (ms : List (Option String × Json)) :
    memberChars ms = joined (ms.map fun m => quoted m.1 ++ ':' :: chars m.2) := by
  induction ms with
  | nil => rfl
  | cons m ms ih =>
    cases ms with
    | nil => rfl
    | cons m' ms => rw [memberChars, ih] <;> simp [joined_cons_cons]

theorem prettyElements_eq (level : Nat) (xs : List Json) :
    prettyElements level xs = joined (xs.map fun x => newLine level ++ prettyChars level x) := by
  induction xs with
  | nil => rfl
  | cons x xs ih =>
    cases xs with
    | nil => rfl
    | cons y ys => rw [prettyElements, ih] <;> simp [joined_cons_cons]

theorem prettyMembers_eq (level : Nat) (ms : List (Option String × Json)) :
    prettyMembers level ms =
      joined (ms.map fun m => newLine level ++ quoted m.1 ++ ':' :: ' ' :: prettyChars level m.2) := by
  induction ms with
  | nil => rfl
  | cons m ms ih =>
    cases ms with
    | nil => rfl
    | cons m' ms => rw [prettyMembers, ih] <;> simp [joined_cons_cons]

/-- **A value written on one line is read as that value**, whatever follows it. -/
theorem isRead_chars {j : Json} (hj : Plain j) : IsRead j (chars j) := by
  induction hj with
  | null => exact isRead_of_succ (List.cons_ne_nil _ _) fun bound rest _ => rfl
  | bool b => cases b <;> exact isRead_of_succ (List.cons_ne_nil _ _) fun bound rest _ => rfl
  | natural n => exact isRead_natural n
  | text s => exact isRead_ofText s
  | @array xs h ih =>
    by_cases hne : xs = []
    · rw [hne]
      exact isRead_of_succ (List.cons_ne_nil _ _) fun bound rest _ => rfl
    · have hread := isRead_array (.inl rfl) hne ih
      rwa [List.append_nil, ← elementChars_eq] at hread
  | @object ms hname h ih =>
    by_cases hne : ms = []
    · rw [hne]
      exact isRead_of_succ (List.cons_ne_nil _ _) fun bound rest _ => rfl
    · have hread := isRead_object (.inl rfl) hne fun m hm =>
        ⟨hname m hm, [], _, allBlank_nil, ih m hm, rfl⟩
      simp only [List.append_nil, List.nil_append, ← memberChars_eq] at hread
      exact hread

/-- **A value written over several lines is read as that value**, whatever follows it. -/
theorem isRead_prettyChars {j : Json} (hj : Plain j) (level : Nat) :
    IsRead j (prettyChars level j) := by
  induction hj generalizing level with
  | null => exact isRead_of_succ (List.cons_ne_nil _ _) fun bound rest _ => rfl
  | bool b => cases b <;> exact isRead_of_succ (List.cons_ne_nil _ _) fun bound rest _ => rfl
  | natural n => exact isRead_natural n
  | text s => exact isRead_ofText s
  | @array xs h ih =>
    cases xs with
    | nil => exact isRead_of_succ (List.cons_ne_nil _ _) fun bound rest _ => rfl
    | cons x xs =>
      have hread := isRead_array (.inr ⟨level, rfl⟩) (List.cons_ne_nil x xs) fun x hx =>
        (ih x hx (level + 1)).append (allBlank_newLine (level + 1))
      rwa [← prettyElements_eq] at hread
  | @object ms hname h ih =>
    cases ms with
    | nil => exact isRead_of_succ (List.cons_ne_nil _ _) fun bound rest _ => rfl
    | cons m ms =>
      have hread := isRead_object (.inr ⟨level, rfl⟩) (List.cons_ne_nil m ms) fun m hm =>
        ⟨hname m hm, newLine (level + 1), _, allBlank_newLine (level + 1),
          (ih m hm (level + 1)).append allBlank_space, rfl⟩
      simp only [List.singleton_append, ← prettyMembers_eq] at hread
      exact hread

/-! ## Whole texts -/

/-- A value is read back from characters that are read as it, with a new line behind them or not. -/
theorem read?_of_isRead {j : Json} {cs back : List Char} (h : IsRead j cs) (hend : Follows back)
    (hblank : AllBlank back) : read? (String.ofList (cs ++ back)) = some j := by
  have hread := h (2 * (cs ++ back).length + 2) back (by rw [List.length_append]; omega) hend
  have hskip : skipBlanks back = [] := by
    have hall := skipBlanks_append hblank []
    rwa [List.append_nil] at hall
  rw [read?, String.toList_ofList, hread]
  simp only [hskip, if_true]

/-- A value is read back from its text on one line. -/
theorem read?_compact {j : Json} (hj : Plain j) : read? (compact j) = some j := by
  have hread := read?_of_isRead (isRead_chars hj) follows_nil allBlank_nil
  rwa [List.append_nil] at hread

/-- A value is read back from its text over several lines, as it is printed. -/
theorem read?_pretty {j : Json} (hj : Plain j) : read? (pretty j ++ "\n") = some j := by
  have hread := read?_of_isRead (isRead_prettyChars hj 0) (follows_cons (by simp) [])
    (allBlank_newLine 0)
  have htext : String.ofList (prettyChars 0 j ++ ['\n']) = pretty j ++ "\n" := by
    rw [← String.toList_inj, pretty, String.toList_append, String.toList_ofList, String.toList_ofList]
    rfl
  rwa [← htext]

end SeedWallet.Json
