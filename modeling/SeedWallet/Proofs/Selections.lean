import SeedWallet.Proofs.ImportedKeys

/-!
# Selecting a candidate

Selections are asked for one after the other. The first text that is a candidate is chosen, and nothing
but the choice ever changes: what comes before it is refused for being no candidate, and what comes after
it, because there is a choice.

- `ImportedKey.after`, `ImportedKey.answers`: the key after a run of selections, and the answers along it.
- `ImportedKey.attempt_of_selected`, `ImportedKey.attempt_of_mem`, `ImportedKey.attempt_of_not_mem`: what
  one selection does.
- `ImportedKey.after_of_selected`, `ImportedKey.after_of_not_mem`: runs with a choice made before them, and
  runs without one.
- `ImportedKey.after_eq`: what a run leaves alone.
- `ImportedKey.chosen_once`: all of this for a key that has just been imported.
-/

namespace SeedWallet.ImportedKey

/-! ## Runs of selections -/

/-- The key after a run of selections. -/
def after (k : ImportedKey) (calls : List String) : ImportedKey :=
  calls.foldl (fun k address => (k.attempt address).2) k

/-- The answers along a run of selections. -/
def answers (k : ImportedKey) : List String → List (Result Unit)
  | [] => []
  | address :: calls => (k.attempt address).1 :: (k.attempt address).2.answers calls

variable {k : ImportedKey}

theorem after_cons (k : ImportedKey) (address : String) (calls : List String) :
    k.after (address :: calls) = (k.attempt address).2.after calls := rfl

theorem answers_cons (k : ImportedKey) (address : String) (calls : List String) :
    k.answers (address :: calls) = (k.attempt address).1 :: (k.attempt address).2.answers calls := rfl

theorem after_append (k : ImportedKey) (before calls : List String) :
    k.after (before ++ calls) = (k.after before).after calls :=
  List.foldl_append

theorem answers_append (k : ImportedKey) (before calls : List String) :
    k.answers (before ++ calls) = k.answers before ++ (k.after before).answers calls := by
  induction before generalizing k with
  | nil => rfl
  | cons address before ih =>
    rw [List.cons_append, answers_cons, ih, answers_cons, after_cons, List.cons_append]

/-! ## One selection -/

/-- After a choice every selection is refused. -/
theorem attempt_of_selected (h : k.selected.isSome) (address : String) :
    k.attempt address = (.error .alreadySelected, k) := by
  rw [attempt, select, if_pos h]

/-- Before it a candidate is chosen. -/
theorem attempt_of_mem (hfresh : k.selected = none) {address : String} (h : address ∈ k.candidates) :
    k.attempt address = (.ok (), { k with selected := some address }) := by
  rw [attempt, select_of_mem hfresh h]

/-- Any other text is refused with itself. -/
theorem attempt_of_not_mem (hfresh : k.selected = none) {address : String}
    (h : address ∉ k.candidates) : k.attempt address = (.error (.notCandidate address), k) := by
  rw [attempt, select, hfresh, if_neg (by simp), if_pos h]

/-- What is refused changes nothing. -/
theorem attempt_of_error {address : String} {e : WalletError}
    (h : (k.attempt address).1 = .error e) : (k.attempt address).2 = k := by
  rw [attempt] at h ⊢
  cases hselect : k.select address with
  | ok chosen =>
    rw [hselect] at h
    cases h
  | error e' => rfl

/-- Nothing but the choice changes. -/
theorem attempt_eq (k : ImportedKey) (address : String) :
    (k.attempt address).2 = { k with selected := (k.attempt address).2.selected } := by
  rw [attempt, select]
  split
  · rename_i chosen hselect
    split at hselect
    · cases hselect
    · split at hselect
      · cases hselect
      · cases hselect
        rfl
  · rfl

/-! ## Any number of selections -/

/-- A choice stays for good. -/
theorem after_of_selected (h : k.selected.isSome) (calls : List String) :
    k.after calls = k ∧ k.answers calls = calls.map fun _ => .error .alreadySelected := by
  induction calls with
  | nil => exact ⟨rfl, rfl⟩
  | cons address calls ih =>
    rw [after_cons, answers_cons, attempt_of_selected h]
    exact ⟨ih.1, congrArg (_ :: ·) ih.2⟩

/-- Without a candidate there is no choice. -/
theorem after_of_not_mem (hfresh : k.selected = none) {calls : List String}
    (h : ∀ address ∈ calls, address ∉ k.candidates) :
    k.after calls = k ∧ k.answers calls = calls.map fun address => .error (.notCandidate address) := by
  induction calls with
  | nil => exact ⟨rfl, rfl⟩
  | cons address calls ih =>
    rw [List.forall_mem_cons] at h
    obtain ⟨hafter, hanswers⟩ := ih h.2
    rw [after_cons, answers_cons, attempt_of_not_mem hfresh h.1]
    exact ⟨hafter, congrArg (_ :: ·) hanswers⟩

/-- The first candidate is the choice. -/
theorem after_of_first_mem (hfresh : k.selected = none) {before : List String} {address : String}
    (hbefore : ∀ other ∈ before, other ∉ k.candidates) (h : address ∈ k.candidates)
    (calls : List String) :
    k.after (before ++ address :: calls) = { k with selected := some address } ∧
      k.answers (before ++ address :: calls) =
        (before.map fun other => .error (.notCandidate other)) ++
          .ok () :: calls.map fun _ => .error .alreadySelected := by
  obtain ⟨hafter, hanswers⟩ := after_of_not_mem hfresh hbefore
  obtain ⟨hafter', hanswers'⟩ :=
    after_of_selected (k := { k with selected := some address }) rfl calls
  constructor
  · rw [after_append, hafter, after_cons, attempt_of_mem hfresh h, hafter']
  · rw [answers_append, hafter, hanswers, answers_cons, attempt_of_mem hfresh h, hanswers']

/-- Whatever is asked for, nothing but the choice changes. -/
theorem after_eq (k : ImportedKey) (calls : List String) :
    k.after calls = { k with selected := (k.after calls).selected } := by
  induction calls generalizing k with
  | nil => rfl
  | cons address calls ih =>
    rw [after_cons]
    calc (k.attempt address).2.after calls
        = { (k.attempt address).2 with selected := ((k.attempt address).2.after calls).selected } :=
          ih _
      _ = { k with selected := ((k.attempt address).2.after calls).selected } := by
          rw [attempt_eq]

/-! ## Imported keys -/

/-- No candidate is without characters. -/
theorem empty_not_mem_candidates (text : String) (network : Network) (key : PrivateKeyText) :
    "" ∉ (ofKey text network key).candidates := by
  simp [candidates, ofKey, (Address.written_ne_empty _ _ _).symm]

/-- **A selection is made once, and only among the candidates.** Of a key that has just been imported
nothing is chosen, and texts that are no candidates are refused with themselves and leave the key as it is.
The first candidate is chosen and the only one to be: every selection after it is refused, whatever it is.
A selection that is refused changes nothing, and none changes candidates, text or secret. -/
theorem chosen_once {text : String} {profile : Profile} {k : ImportedKey}
    (h : ofText text profile = .ok k) :
    (∀ calls, (∀ address ∈ calls, address ∉ k.candidates) →
      k.after calls = k ∧ (k.after calls).selected = none ∧
        k.answers calls = calls.map fun address => .error (.notCandidate address)) ∧
    (∀ before address calls, (∀ other ∈ before, other ∉ k.candidates) → address ∈ k.candidates →
      k.after (before ++ address :: calls) = { k with selected := some address } ∧
        k.answers (before ++ address :: calls) =
          (before.map fun other => .error (.notCandidate other)) ++
            .ok () :: calls.map fun _ => .error .alreadySelected) ∧
    (∀ calls address e, ((k.after calls).attempt address).1 = .error e →
      ((k.after calls).attempt address).2 = k.after calls) ∧
    (∀ calls, (k.after calls).candidates = k.candidates ∧ (k.after calls).encoded = text ∧
      (k.after calls).secret = k.secret) := by
  obtain ⟨hfresh, hencoded⟩ : k.selected = none ∧ k.encoded = text := by
    rw [ofText_eq] at h
    cases hkey : PrivateKeyText.decode text with
    | error e =>
      rw [hkey] at h
      cases h
    | ok key =>
      rw [hkey] at h
      cases h
      exact ⟨rfl, rfl⟩
  refine ⟨fun calls hcalls => ?_, fun before address calls hbefore haddress => ?_,
    fun calls address e he => ?_, fun calls => ?_⟩
  · obtain ⟨hafter, hanswers⟩ := after_of_not_mem hfresh hcalls
    rw [hafter]
    exact ⟨rfl, hfresh, hanswers⟩
  · exact after_of_first_mem hfresh hbefore haddress calls
  · exact attempt_of_error he
  · rw [after_eq]
    exact ⟨rfl, hencoded, rfl⟩

/-- A text that means the compressed public key: of four selections the second is the choice. -/
theorem chosen_once_native :
    ∃ k, ofText "KwDiBf89QgGbjEhKnhXJuH7LrciVrZi3qYjgd9M7rFU73sVHnoWn" .importDefault = .ok k ∧
      k.answers ["", k.native, k.legacy, ""] =
        [.error (.notCandidate ""), .ok (), .error .alreadySelected, .error .alreadySelected] ∧
      (k.after ["", k.native, k.legacy, ""]).selected = some k.native := by
  have htext : "KwDiBf89QgGbjEhKnhXJuH7LrciVrZi3qYjgd9M7rFU73sVHnoWn" =
      Base58Check.encode (0x80 :: (SecretKey.bytes ⟨1, by decide⟩ ++ [1])) := by decide +kernel
  have hdecode := (PrivateKeyText.decode_eq_ok_iff _ ⟨⟨1, by decide⟩, true⟩).mpr
    ⟨0x80, by decide, _, ⟨[1], rfl, rfl⟩, htext⟩
  obtain ⟨k, hkey, hempty⟩ : ∃ k, ofText "KwDiBf89QgGbjEhKnhXJuH7LrciVrZi3qYjgd9M7rFU73sVHnoWn"
      .importDefault = .ok k ∧ "" ∉ k.candidates :=
    ⟨_, ofText_of_decode hdecode _, empty_not_mem_candidates _ _ _⟩
  obtain ⟨-, hchosen, -⟩ := chosen_once hkey
  obtain ⟨hafter, hanswers⟩ :=
    hchosen [""] k.native [k.legacy, ""] (by simpa using hempty) (by simp [candidates])
  exact ⟨k, hkey, hanswers, congrArg selected hafter⟩

end SeedWallet.ImportedKey
