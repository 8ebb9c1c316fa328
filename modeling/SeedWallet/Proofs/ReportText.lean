import SeedWallet.Proofs.JsonRecords
import SeedWallet.Report

/-!
# The printed report is read back

A report is printed over several lines, as an object of its four fields. Whoever reads the text gets the
report again, its profile, its key and both lists, record by record.

- `Report.ofJson?`: the report of an object.
- `Report.ofJson?_toJson`, `Report.plain_toJson`: the fields are found again, and their text can be read.
- `Report.parse?_answer`: the report of a printed text.
-/

namespace SeedWallet.Report

/-- The records of an array. -/
def recordsOfJson? : Json → Option (List AddressRecord)
  | .array xs => xs.mapM AddressRecord.ofJson?
  | _ => none

/-- The report of an object. -/
def ofJson? (j : Json) : Option Report :=
  match j.fields? ["coin_profile", "verification_key", "receive", "change"] with
  | some [some profile, some key, some receive, some change] => do
    return ⟨← Profile.ofJson? profile, ← key.text?, ← recordsOfJson? receive, ← recordsOfJson? change⟩
  | _ => none

theorem recordsOfJson?_array (ms : List AddressRecord) :
    recordsOfJson? (.array (ms.map AddressRecord.toJson)) = some ms :=
  Json.mapM_eq_some_of_found AddressRecord.ofJson?_toJson ms

theorem ofJson?_toJson (r : Report) : ofJson? r.toJson = some r := by
  rw [toJson, ofJson?, Json.fields?_record (by simp)]
  simp [List.lookup_cons, Profile.ofJson?_toJson, recordsOfJson?_array]

theorem plain_records (ms : List AddressRecord) :
    Json.Plain (.array (ms.map AddressRecord.toJson)) := by
  refine .array fun x hx => ?_
  obtain ⟨m, -, rfl⟩ := List.mem_map.mp hx
  exact m.plain_toJson

theorem plain_toJson (r : Report) : r.toJson.Plain := by
  refine Json.plain_record ?_
  simp only [List.forall_mem_cons]
  exact ⟨r.profile.plain_toJson, .text _, plain_records _, plain_records _, by simp⟩

/-- The printed text is that of the report. -/
theorem parse?_answer (r : Report) : Json.parse? ofJson? (r.toJson.pretty ++ "\n") = some r := by
  rw [Json.parse?, Json.read?_pretty r.plain_toJson, Option.bind_some, ofJson?_toJson]

end SeedWallet.Report
