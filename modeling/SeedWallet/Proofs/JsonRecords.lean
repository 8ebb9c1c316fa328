import SeedWallet.Address
import SeedWallet.AddressRecord
import SeedWallet.Proofs.JsonText
import SeedWallet.Utxo

/-!
# Records survive their JSON form

A record is written as an object of its fields, each under its own name, so that each field is found
again; the values of the fields are plain, so that their text is read back. A script that is missing has
no field, which is not the same as a script without bytes.

- `Json.fields?_record`: fields are found by their names.
- `Json.Survives`: a value is read back from its text, and a text that was read and written again stands
  for the same value and is not changed by doing so once more.
- `Json.survives_of_plain`: what that takes.
- `Json.records_survive`: it holds of every type of record.
-/

namespace SeedWallet

namespace Json

/-! ## Fields -/

section

variable {ms : List (String × Json)}

theorem plain_record (h : ∀ m ∈ ms, Plain m.2) : Plain (record ms) := by
  refine .object (fun m hm => ?_) fun m hm => ?_
  · obtain ⟨m', -, rfl⟩ := List.mem_map.mp hm
    rfl
  · obtain ⟨m', hm', rfl⟩ := List.mem_map.mp hm
    exact h m' hm'

theorem member?_record (name : String) (ms : List (String × Json)) :
    member? name (ms.map fun m => (some m.1, m.2)) = ms.lookup name := by
  induction ms with
  | nil => rfl
  | cons m ms ih =>
    have hname : ((some m.1 : Option String) == some name) = (name == m.1) := by
      rw [Bool.eq_iff_iff, beq_iff_eq, beq_iff_eq, Option.some_inj, eq_comm]
    rw [member?] at ih ⊢
    rw [List.map_cons, List.find?_cons, List.lookup_cons, hname]
    cases name == m.1 with
    | false => exact ih
    | true => rfl

theorem occurrences_record (name : String) (ms : List (String × Json)) :
    occurrences name (ms.map fun m => (some m.1, m.2)) = (ms.map Prod.fst).count name := by
  simp [occurrences, List.countP_map, List.count, Function.comp_def]

/-- The fields of a record are found by their names, if no two of them share one. -/
theorem fields?_record (h : (ms.map Prod.fst).Nodup) (names : List String) :
    fields? names (record ms) = some (names.map fun name => ms.lookup name) := by
  have hnames : ((ms.map fun m => (some m.1, m.2)).all fun m => m.1.isSome) = true := by simp
  have honce : (names.all fun n => occurrences n (ms.map fun m => (some m.1, m.2)) ≤ 1) = true := by
    simp only [occurrences_record, List.all_eq_true, decide_eq_true_eq]
    exact fun n _ => List.nodup_iff_count_le_one.mp h n
  rw [record, fields?, hnames, honce]
  simp only [member?_record, Bool.and_self, if_true]

end

/-- A list is found again if its elements are. -/
theorem mapM_eq_some_of_found {α : Type} {toJson : α → Json} {ofJson? : Json → Option α}
    (h : ∀ a, ofJson? (toJson a) = some a) (as : List α) : (as.map toJson).mapM ofJson? = some as := by
  induction as with
  | nil => rfl
  | cons a as ih =>
    rw [List.map_cons, List.mapM_cons, h, ih]
    rfl

/-! ## Numbers -/

theorem naturalBelow?_natural {limit n : Nat} (h : n < limit) :
    naturalBelow? limit (.natural n) = some n := if_pos h

@[simp] theorem uint8?_natural (b : UInt8) : uint8? (.natural b.toNat) = some b := by
  rw [uint8?, naturalBelow?_natural b.toNat_lt, Option.map_some, UInt8.ofNat_toNat]

@[simp] theorem uint32?_natural (n : UInt32) : uint32? (.natural n.toNat) = some n := by
  rw [uint32?, naturalBelow?_natural n.toNat_lt, Option.map_some, UInt32.ofNat_toNat]

@[simp] theorem uint64?_natural (n : UInt64) : uint64? (.natural n.toNat) = some n := by
  rw [uint64?, naturalBelow?_natural n.toNat_lt, Option.map_some, UInt64.ofNat_toNat]

@[simp] theorem text?_ofText (s : String) : text? (.ofText s) = some s := rfl

@[simp] theorem bool?_bool (b : Bool) : bool? (.bool b) = some b := rfl

end Json

/-! ## Types of records -/

theorem Profile.ofJson?_toJson (p : Profile) : ofJson? p.toJson = some p := by
  rw [toJson, ofJson?, Json.fields?_record (by simp)]
  simp [List.lookup_cons]

theorem Profile.plain_toJson (p : Profile) : p.toJson.Plain := by
  refine Json.plain_record ?_
  simp only [List.forall_mem_cons]
  exact ⟨.natural _, .natural _, .natural _, .text _, by simp⟩

theorem Path.ofJson?_toJson (p : Path) : ofJson? p.toJson = some p := by
  rw [toJson, ofJson?, Json.fields?_record (by simp)]
  simp [List.lookup_cons]

theorem Path.plain_toJson (p : Path) : p.toJson.Plain := by
  refine Json.plain_record ?_
  simp only [List.forall_mem_cons]
  exact ⟨.natural _, .natural _, .natural _, .natural _, .natural _, by simp⟩

theorem AddressRecord.ofJson?_toJson (r : AddressRecord) : ofJson? r.toJson = some r := by
  rw [toJson, ofJson?, Json.fields?_record (by simp)]
  simp [List.lookup_cons, Path.ofJson?_toJson, Profile.ofJson?_toJson]

theorem AddressRecord.plain_toJson (r : AddressRecord) : r.toJson.Plain := by
  refine Json.plain_record ?_
  simp only [List.forall_mem_cons]
  exact ⟨.text _, r.path.plain_toJson, r.profile.plain_toJson, .text _, by simp⟩

namespace Utxo

/-- A script is read from its field, whether it has bytes or not. -/
theorem scriptOfJson?_array (bs : Bytes) :
    scriptOfJson? (some (.array (bs.map fun b => .natural b.toNat))) = some (some bs) := by
  rw [scriptOfJson?, Json.mapM_eq_some_of_found Json.uint8?_natural]
  rfl

/-- An output without a script has no field for it. -/
theorem scriptOfJson?_none : scriptOfJson? none = some none := rfl

theorem ofJson?_toJson (u : Utxo) : ofJson? u.toJson = some u := by
  obtain ⟨transaction, output, value, path, script, confirmed⟩ := u
  cases script with
  | none =>
    rw [toJson, ofJson?, Json.fields?_record (by simp)]
    simp [List.lookup_cons, scriptOfJson?_none, Path.ofJson?_toJson]
  | some bs =>
    rw [toJson, ofJson?, Json.fields?_record (by simp)]
    simp [List.lookup_cons, scriptOfJson?_array, Path.ofJson?_toJson]

theorem plain_toJson (u : Utxo) : u.toJson.Plain := by
  obtain ⟨transaction, output, value, path, script, confirmed⟩ := u
  refine Json.plain_record ?_
  simp only [List.forall_mem_append, List.forall_mem_cons]
  refine ⟨⟨⟨.text _, .natural _, .natural _, path.plain_toJson, by simp⟩, ?_⟩, .bool _, by simp⟩
  cases script with
  | none => simp
  | some bs =>
    rw [List.forall_mem_singleton]
    refine .array fun x hx => ?_
    obtain ⟨b, -, rfl⟩ := List.mem_map.mp hx
    exact .natural _

end Utxo

/-! ## Texts -/

namespace Json

section

variable {α : Type} (toJson : α → Json) (ofJson? : Json → Option α)

/-- The text of a value. -/
def write (a : α) : String :=
  (toJson a).compact

/-- The value of a text. -/
def parse? (text : String) : Option α :=
  (read? text).bind ofJson?

/-- A text read and written again. -/
def resave (text : String) : Option String :=
  (parse? ofJson? text).map (write toJson)

/-- Whether values survive in their texts. -/
structure Survives : Prop where
  /-- Every value is read back from its text. -/
  parse?_write : ∀ a, parse? ofJson? (write toJson a) = some a
  /-- A text that was read and written again stands for the same value. -/
  parse?_resave : ∀ text, (resave toJson ofJson? text).bind (parse? ofJson?) = parse? ofJson? text
  /-- It is not changed by doing so once more. -/
  resave_resave : ∀ text,
    (resave toJson ofJson? text).bind (resave toJson ofJson?) = resave toJson ofJson? text

variable {toJson : α → Json} {ofJson? : Json → Option α}

/-- Values survive if they are plain and are found again in what is written for them. -/
theorem survives_of_plain (hplain : ∀ a, (toJson a).Plain)
    (hfound : ∀ a, ofJson? (toJson a) = some a) : Survives toJson ofJson? := by
  have hwrite (a : α) : parse? ofJson? (write toJson a) = some a := by
    rw [parse?, write, read?_compact (hplain a), Option.bind_some, hfound]
  refine ⟨hwrite, fun text => ?_, fun text => ?_⟩
  · rw [resave]
    cases parse? ofJson? text with
    | none => rfl
    | some a => exact hwrite a
  · rw [resave]
    cases parse? ofJson? text with
    | none => rfl
    | some a => rw [Option.map_some, Option.bind_some, resave, hwrite, Option.map_some]

end

/-- **Records survive their JSON form**: profiles, paths, outputs, derived addresses, kinds of address
and networks. -/
theorem records_survive :
    Survives Profile.toJson Profile.ofJson? ∧ Survives Path.toJson Path.ofJson? ∧
      Survives Utxo.toJson Utxo.ofJson? ∧ Survives AddressRecord.toJson AddressRecord.ofJson? ∧
      Survives AddressKind.toJson AddressKind.ofJson? ∧ Survives Network.toJson Network.ofJson? :=
  ⟨survives_of_plain Profile.plain_toJson Profile.ofJson?_toJson,
    survives_of_plain Path.plain_toJson Path.ofJson?_toJson,
    survives_of_plain Utxo.plain_toJson Utxo.ofJson?_toJson,
    survives_of_plain AddressRecord.plain_toJson AddressRecord.ofJson?_toJson,
    survives_of_plain (fun _ => .text _) AddressKind.ofJson?_toJson,
    survives_of_plain (fun _ => .text _) Network.ofJson?_toJson⟩

end Json

end SeedWallet
