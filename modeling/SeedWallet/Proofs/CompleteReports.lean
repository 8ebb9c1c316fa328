import SeedWallet.Proofs.AddressSearch
import SeedWallet.Proofs.Mnemonics
import SeedWallet.Proofs.PathText
import SeedWallet.Proofs.ProfileSwaps
import SeedWallet.Proofs.ReportText

/-!
# The report is complete or there is none

The program prints a report when it has all of it: for each index below the count both records, which are
those of the wallet that environment and settings file open. Otherwise it prints why there is none, and
nothing else.

What a count is taken for depends on where it stands. Behind its flag whatever is no number is refused. In
the variable a text is refused that is no number; but bytes that are no text at all, which are no number
either, are passed over, and the default is reported.

- `Report.Asked`, `Report.count_eq_ok_iff`: the count that is asked for.
- `Report.Opens`: the wallet that is opened.
- `Report.Lists`: the records of a chain, all of those below the count.
- `Report.IsOn`, `Report.create_eq_ok_iff`: a report is one on that wallet.
- `Report.IsOn.find`: the wallet finds what the report lists.
- `Report.complete_or_absent`: what is asked for, what is printed, and when nothing is.
- `Report.foreign_count_not_refused`: a variable that is set, is no number and is not refused.
-/

namespace SeedWallet

/-- Another description of failures leaves the values. -/
theorem mapError_eq_ok_iff {ε ε' α : Type} {f : ε → ε'} {x : Except ε α} {a : α} :
    x.mapError f = .ok a ↔ x = .ok a := by
  cases x <;> simp [Except.mapError]

/-- A number of 32 bits is read from its numerals. -/
theorem Decimal.readUInt32_eq_ok_iff (s : String) (n : UInt32) :
    readUInt32 s = .ok n ↔ Spells s.toList n.toNat := by
  rw [readUInt32, map_eq_ok_iff]
  exact Path.readBelow_eq_ok_iff s.toList n

namespace Report

/-! ## The count -/

section

variable {front : List String} {env : Environment}

/-- What stands in front of the first flag does not count. -/
theorem countArgument?_append (h : "--count" ∉ front) (args : List String) :
    countArgument? (front ++ args) = countArgument? args := by
  induction front with
  | nil => rfl
  | cons arg front ih =>
    rw [List.mem_cons, not_or] at h
    rw [List.cons_append, countArgument?, if_neg (Ne.symm h.1)]
    exact ih h.2

/-- What stands behind it does, and its first word only. -/
theorem countArgument?_flag (h : "--count" ∉ front) (back : List String) :
    countArgument? (front ++ "--count" :: back) = some back.head? := by
  rw [countArgument?_append h, countArgument?, if_pos rfl]

theorem countArgument?_of_notMem {args : List String} (h : "--count" ∉ args) :
    countArgument? args = none := by
  rw [← List.append_nil args, countArgument?_append h]
  rfl

/-- The number of addresses of a chain that arguments and environment ask for. -/
inductive Asked (args : List String) (env : Environment) : UInt32 → Prop where
  /-- The number is behind the first flag. -/
  | argument {front back : List String} {text : String} {n : UInt32}
      (hargs : args = front ++ "--count" :: text :: back) (hfirst : "--count" ∉ front)
      (hnumber : Decimal.Spells text.toList n.toNat) : Asked args env n
  /-- There is no flag, and the number is in the variable. -/
  | setting {text : String} {n : UInt32} (hargs : "--count" ∉ args)
      (hset : env.text? "ADDRESS_COUNT" = some text)
      (hnumber : Decimal.Spells text.toList n.toNat) : Asked args env n
  /-- There is no flag, and the variable is not set or holds no text. -/
  | neither (hargs : "--count" ∉ args) (hset : env.text? "ADDRESS_COUNT" = none) :
      Asked args env defaultCount

/-- The word behind the first flag is read, and nothing else. -/
theorem count_flag (h : "--count" ∉ front) (text : String) (back : List String) :
    count (front ++ "--count" :: text :: back) env =
      (Decimal.readUInt32 text).mapError (.invalidCount text) := by
  rw [count, countArgument?_flag h, List.head?_cons]

theorem count_flag_nil (h : "--count" ∉ front) :
    count (front ++ ["--count"]) env = .error .missingCount := by
  rw [count, countArgument?_flag h, List.head?_nil]

/-- Without a flag the variable is read. -/
theorem count_of_notMem {args : List String} (h : "--count" ∉ args) :
    count args env = match env.text? "ADDRESS_COUNT" with
      | some text => (Decimal.readUInt32 text).mapError (.invalidCountVariable text)
      | none => .ok defaultCount := by
  cases hset : env.text? "ADDRESS_COUNT" <;> simp only [count, countArgument?_of_notMem h, hset]

/-- There is a count exactly if a number is asked for. -/
theorem count_eq_ok_iff (args : List String) (env : Environment) (n : UInt32) :
    count args env = .ok n ↔ Asked args env n := by
  constructor
  · intro h
    by_cases hflag : "--count" ∈ args
    · obtain ⟨front, back, rfl, hfirst⟩ := List.eq_append_cons_of_mem hflag
      cases back with
      | nil =>
        rw [count_flag_nil hfirst] at h
        cases h
      | cons text back =>
        rw [count_flag hfirst, mapError_eq_ok_iff, Decimal.readUInt32_eq_ok_iff] at h
        exact .argument rfl hfirst h
    · rw [count_of_notMem hflag] at h
      cases hset : env.text? "ADDRESS_COUNT" with
      | none =>
        rw [hset] at h
        cases h
        exact .neither hflag hset
      | some text =>
        rw [hset] at h
        exact .setting hflag hset ((Decimal.readUInt32_eq_ok_iff text n).mp (mapError_eq_ok_iff.mp h))
  · rintro (⟨rfl, hfirst, hnumber⟩ | ⟨hflag, hset, hnumber⟩ | ⟨hflag, hset⟩)
    · rw [count_flag hfirst, (Decimal.readUInt32_eq_ok_iff _ n).mpr hnumber]
      rfl
    · rw [count_of_notMem hflag, hset]
      exact mapError_eq_ok_iff.mpr ((Decimal.readUInt32_eq_ok_iff _ n).mpr hnumber)
    · rw [count_of_notMem hflag, hset]

/-- A second flag is the word behind the first one, and no number. -/
example : count ["--count", "--count", "7"] (fun _ => some (utf8 "9")) =
    .error (.invalidCount "--count" .badDigit) := by decide

/-- The text is the numeral of no 32-bit number. -/
def IsNoCount (text : String) : Prop :=
  ∀ n : UInt32, ¬Decimal.Spells text.toList n.toNat

theorem exists_error_of_isNoCount {text : String} (h : IsNoCount text) (f : Decimal.Fault → ReportError) :
    ∃ fault, (Decimal.readUInt32 text).mapError f = .error (f fault) := by
  cases hread : Decimal.readUInt32 text with
  | error fault => exact ⟨fault, rfl⟩
  | ok n => exact absurd ((Decimal.readUInt32_eq_ok_iff text n).mp hread) (h n)

/-- Without a flag there is an error exactly if the variable holds a text that is no number. -/
theorem exists_error_of_notMem_iff {args : List String} (h : "--count" ∉ args) :
    (∃ e, count args env = .error e) ↔
      ∃ text, env.text? "ADDRESS_COUNT" = some text ∧ IsNoCount text := by
  rw [count_of_notMem h]
  cases env.text? "ADDRESS_COUNT" with
  | none => simp
  | some text =>
    simp only [Option.some.injEq, exists_eq_left']
    constructor
    · rintro ⟨e, he⟩ n hnumber
      rw [(Decimal.readUInt32_eq_ok_iff text n).mpr hnumber] at he
      cases he
    · intro htext
      obtain ⟨fault, hfault⟩ := exists_error_of_isNoCount htext (.invalidCountVariable text)
      exact ⟨_, hfault⟩

end

/-! ## The wallet -/

/-- The environment holds the phrase of the wallet, under the profile that is configured. -/
def Opens (env : Environment) (file : Option SettingsFile) (w : Wallet) : Prop :=
  ∃ settings phrase, Settings.load env file = .ok settings ∧ settings.validate = .ok () ∧
    settings.profile = .ok w.profile ∧ env.text? "WALLET_WORDS" = some phrase ∧
    Wallet.ofPhrase phrase w.profile = .ok w

theorem openWallet_eq_ok_iff (env : Environment) (settings : Settings) (w : Wallet) :
    openWallet env settings = .ok w ↔ settings.profile = .ok w.profile ∧
      ∃ phrase, env.text? "WALLET_WORDS" = some phrase ∧ Wallet.ofPhrase phrase w.profile = .ok w := by
  simp only [openWallet, ← Environment.read_eq_ok_iff]
  cases env.read "WALLET_WORDS" with
  | error fault =>
    constructor
    · intro h
      cases h
    · rintro ⟨-, phrase, h, -⟩
      cases h
  | ok phrase =>
    simp only [Result.bind_eq_ok_iff, mapError_eq_ok_iff, Except.ok.injEq]
    constructor
    · rintro ⟨p, hprofile, hw⟩
      obtain rfl := Wallet.profile_of_ofPhrase hw
      exact ⟨hprofile, phrase, rfl, hw⟩
    · rintro ⟨hprofile, _, rfl, hw⟩
      exact ⟨w.profile, hprofile, hw⟩

/-! ## Lists of records -/

/-- The list has a place for each index below the count, with the record of the index. -/
structure Lists (derive : UInt32 → Result AddressRecord) (count : UInt32) (ms : List AddressRecord) :
    Prop where
  length : ms.length = count.toNat
  record : ∀ (i : UInt32) m, ms[i.toNat]? = some m → derive i = .ok m

variable {derive : UInt32 → Result AddressRecord}

/-- Records are derived one after the other, and if one fails there are none. -/
theorem addressesFrom_eq_ok_iff (count index : Nat) (ms : List AddressRecord) :
    addressesFrom derive count index = .ok ms ↔
      ms.length = count ∧ ∀ i m, ms[i]? = some m → derive (UInt32.ofNat (index + i)) = .ok m := by
  induction count generalizing index ms with
  | zero =>
    rw [addressesFrom, List.length_eq_zero_iff]
    constructor
    · intro h
      cases h
      simp
    · rintro ⟨rfl, -⟩
      rfl
  | succ count ih =>
    rw [addressesFrom, Result.bind_eq_ok_iff]
    constructor
    · rintro ⟨first, hfirst, h⟩
      obtain ⟨others, hothers, h⟩ := Result.bind_eq_ok_iff.mp h
      cases h
      obtain ⟨hlength, hrecord⟩ := (ih (index + 1) others).mp hothers
      refine ⟨by rw [List.length_cons, hlength], fun i m hm => ?_⟩
      cases i with
      | zero =>
        cases hm
        exact hfirst
      | succ i =>
        have hnext := hrecord i m hm
        rwa [Nat.add_right_comm] at hnext
    · rintro ⟨hlength, hrecord⟩
      obtain ⟨first, others, rfl⟩ := List.exists_cons_of_length_eq_add_one hlength
      have hothers : addressesFrom derive count (index + 1) = .ok others := by
        refine (ih (index + 1) others).mpr ⟨Nat.succ.inj hlength, fun i m hm => ?_⟩
        have hnext := hrecord (i + 1) m hm
        rwa [← Nat.add_assoc, Nat.add_right_comm] at hnext
      exact ⟨first, hrecord 0 first rfl, Result.bind_eq_ok_iff.mpr ⟨others, hothers, rfl⟩⟩

/-- What is derived from index 0 on is the list of these records. -/
theorem addressesFrom_zero_eq_ok_iff (count : UInt32) (ms : List AddressRecord) :
    addressesFrom derive count.toNat 0 = .ok ms ↔ Lists derive count ms := by
  rw [addressesFrom_eq_ok_iff]
  constructor
  · rintro ⟨hlength, hrecord⟩
    refine ⟨hlength, fun i m hm => ?_⟩
    have hi := hrecord i.toNat m hm
    rwa [Nat.zero_add, UInt32.ofNat_toNat] at hi
  · rintro ⟨hlength, hrecord⟩
    refine ⟨hlength, fun i m hm => hrecord _ m ?_⟩
    obtain ⟨hi, -⟩ := List.getElem?_eq_some_iff.mp hm
    have hlt : i < 2 ^ 32 := by
      have := count.toNat_lt
      omega
    rw [Nat.zero_add, UInt32.toNat_ofNat_of_lt' hlt, hm]

/-- Each index below the count has a record in the list. -/
theorem Lists.exists_record {count : UInt32} {ms : List AddressRecord} (h : Lists derive count ms)
    {i : UInt32} (hi : i < count) : ∃ m, ms[i.toNat]? = some m ∧ derive i = .ok m := by
  have hlt : i.toNat < ms.length := by
    rw [h.length]
    exact UInt32.lt_iff_toNat_lt.mp hi
  exact ⟨_, List.getElem?_eq_getElem hlt, h.record i _ (List.getElem?_eq_getElem hlt)⟩

/-- Each record of the list has an index below the count. -/
theorem Lists.exists_index {count : UInt32} {ms : List AddressRecord} (h : Lists derive count ms)
    {m : AddressRecord} (hm : m ∈ ms) : ∃ i < count, derive i = .ok m := by
  obtain ⟨i, hi⟩ := List.getElem?_of_mem hm
  obtain ⟨hlt, -⟩ := List.getElem?_eq_some_iff.mp hi
  rw [h.length] at hlt
  have hsame : (UInt32.ofNat i).toNat = i :=
    UInt32.toNat_ofNat_of_lt' (hlt.trans count.toNat_lt)
  refine ⟨UInt32.ofNat i, ?_, h.record _ m (by rw [hsame, hi])⟩
  rw [UInt32.lt_iff_toNat_lt, hsame]
  exact hlt

/-- If there are none, it is because one of them fails. -/
theorem exists_error_of_addressesFrom {count index : Nat} {e : WalletError}
    (h : addressesFrom derive count index = .error e) :
    ∃ i < count, derive (UInt32.ofNat (index + i)) = .error e := by
  induction count generalizing index with
  | zero => cases h
  | succ count ih =>
    rw [addressesFrom, Result.bind_eq_error_iff] at h
    rcases h with hfirst | ⟨first, -, h⟩
    · exact ⟨0, by omega, hfirst⟩
    · rcases Result.bind_eq_error_iff.mp h with hothers | ⟨others, -, hreturn⟩
      · obtain ⟨i, hi, he⟩ := ih hothers
        refine ⟨i + 1, by omega, ?_⟩
        rwa [Nat.add_right_comm, Nat.add_assoc] at he
      · cases hreturn

/-- There is a list exactly if every index below the count has a record. -/
theorem exists_lists_iff (count : UInt32) :
    (∃ ms, Lists derive count ms) ↔ ∀ i < count, ∃ m, derive i = .ok m := by
  constructor
  · rintro ⟨ms, hms⟩ i hi
    obtain ⟨m, -, hm⟩ := hms.exists_record hi
    exact ⟨m, hm⟩
  · intro h
    cases hlist : addressesFrom derive count.toNat 0 with
    | ok ms => exact ⟨ms, (addressesFrom_zero_eq_ok_iff count ms).mp hlist⟩
    | error e =>
      obtain ⟨i, hi, he⟩ := exists_error_of_addressesFrom hlist
      rw [Nat.zero_add] at he
      have hsame : (UInt32.ofNat i).toNat = i := UInt32.toNat_ofNat_of_lt' (hi.trans count.toNat_lt)
      obtain ⟨m, hm⟩ := h (UInt32.ofNat i) (by rwa [UInt32.lt_iff_toNat_lt, hsame])
      cases hm.symm.trans he

/-! ## Reports -/

/-- The report is that on the first addresses of the wallet. -/
structure IsOn (r : Report) (w : Wallet) (count : UInt32) : Prop where
  profile : r.profile = w.profile
  verificationKey : w.verificationKey = .ok r.verificationKey
  receive : Lists w.receive count r.receive
  change : Lists w.change count r.change

/-- The signing key and all addresses below the count can be derived. -/
def Derives (w : Wallet) (count : UInt32) : Prop :=
  (∃ key, w.verificationKey = .ok key) ∧
    ∀ i < count, (∃ m, w.receive i = .ok m) ∧ ∃ m, w.change i = .ok m

variable {r : Report} {w : Wallet} {count : UInt32}

theorem ofWallet_eq_ok_iff : ofWallet w count = .ok r ↔ r.IsOn w count := by
  simp only [ofWallet, Result.bind_eq_ok_iff, addressesFrom_zero_eq_ok_iff]
  constructor
  · rintro ⟨key, hkey, receive, hreceive, change, hchange, h⟩
    cases h
    exact ⟨rfl, hkey, hreceive, hchange⟩
  · rintro ⟨hprofile, hkey, hreceive, hchange⟩
    refine ⟨_, hkey, _, hreceive, _, hchange, ?_⟩
    rw [← hprofile]
    rfl

/-- **A report is one on the wallet that is opened, with as many addresses as are asked for.** -/
theorem create_eq_ok_iff (args : List String) (env : Environment) (file : Option SettingsFile)
    (r : Report) :
    create args env file = .ok r ↔ ∃ n w, Asked args env n ∧ Opens env file w ∧ r.IsOn w n := by
  simp only [create, Result.bind_eq_ok_iff, mapError_eq_ok_iff, count_eq_ok_iff, openWallet_eq_ok_iff,
    ofWallet_eq_ok_iff]
  constructor
  · rintro ⟨s, hload, ⟨⟩, hvalid, n, hasked, w, ⟨hprofile, phrase, hphrase, hw⟩, hr⟩
    exact ⟨n, w, hasked, ⟨s, phrase, hload, hvalid, hprofile, hphrase, hw⟩, hr⟩
  · rintro ⟨n, w, hasked, ⟨s, phrase, hload, hvalid, hprofile, hphrase, hw⟩, hr⟩
    exact ⟨s, hload, (), hvalid, n, hasked, w, ⟨hprofile, phrase, hphrase, hw⟩, hr⟩

/-- There is a report on a wallet exactly if nothing that it lists fails. -/
theorem exists_isOn_iff (w : Wallet) (count : UInt32) :
    (∃ r : Report, r.IsOn w count) ↔ Derives w count := by
  constructor
  · rintro ⟨r, hr⟩
    exact ⟨⟨_, hr.verificationKey⟩, fun i hi => ⟨(exists_lists_iff count).mp ⟨_, hr.receive⟩ i hi,
      (exists_lists_iff count).mp ⟨_, hr.change⟩ i hi⟩⟩
  · rintro ⟨⟨key, hkey⟩, hrecords⟩
    obtain ⟨receive, hreceive⟩ := (exists_lists_iff count).mpr fun i hi => (hrecords i hi).1
    obtain ⟨change, hchange⟩ := (exists_lists_iff count).mpr fun i hi => (hrecords i hi).2
    exact ⟨⟨w.profile, key, receive, change⟩, rfl, hkey, hreceive, hchange⟩

/-- There is a report exactly if every step succeeds, and every record. -/
theorem exists_create_iff (args : List String) (env : Environment) (file : Option SettingsFile) :
    (∃ r, create args env file = .ok r) ↔ ∃ n w, Asked args env n ∧ Opens env file w ∧ Derives w n := by
  simp only [create_eq_ok_iff, ← exists_isOn_iff]
  constructor
  · rintro ⟨r, n, w, hasked, hw, hr⟩
    exact ⟨n, w, hasked, hw, r, hr⟩
  · rintro ⟨n, w, hasked, hw, r, hr⟩
    exact ⟨r, n, w, hasked, hw, hr⟩

namespace IsOn

/-- Below the count every place of the wallet has a record. -/
theorem exists_recordAt (h : r.IsOn w count) {p : Wallet.Place} (hp : p.1 < count) :
    ∃ m, w.recordAt p = .ok m := by
  obtain ⟨-, hrecords⟩ := (exists_isOn_iff w count).mp ⟨r, h⟩
  obtain ⟨i, chain⟩ := p
  cases chain with
  | receive => exact (hrecords i hp).1
  | change => exact (hrecords i hp).2

/-- Each record of a report is that of a place below the count. -/
theorem exists_place (h : r.IsOn w count) {m : AddressRecord} (hm : m ∈ r.receive ++ r.change) :
    ∃ p : Wallet.Place, p.1 < count ∧ w.recordAt p = .ok m := by
  rcases List.mem_append.mp hm with hm | hm
  · obtain ⟨i, hi, hrecord⟩ := h.receive.exists_index hm
    exact ⟨(i, .receive), hi, hrecord⟩
  · obtain ⟨i, hi, hrecord⟩ := h.change.exists_index hm
    exact ⟨(i, .change), hi, hrecord⟩

/-- The wallet finds what the report lists, since no place below the count fails. -/
theorem find (h : r.IsOn w count) {m : AddressRecord} (hm : m ∈ r.receive ++ r.change) :
    ∃ found, w.find m.address count = .ok found ∧ found.address = m.address := by
  obtain ⟨p, hp, hrecord⟩ := h.exists_place hm
  have hearlier : ∀ q, Wallet.Earlier q p → ∃ s, w.recordAt q = .ok s := by
    intro q hq
    refine h.exists_recordAt ?_
    rcases hq with hlt | ⟨heq, -⟩
    · exact UInt32.lt_trans hlt hp
    · rwa [heq]
  obtain ⟨-, found, -, -, haddress, hfind⟩ := Wallet.exists_find_recordAt hp hearlier hrecord
  exact ⟨found, hfind, haddress⟩

/-- A record of the wallet has the path of its index and the profile of the report. -/
theorem path_of_addressAt (h : r.IsOn w count) {chain : Chain} {i : UInt32} {m : AddressRecord}
    (hm : w.addressAt chain i = .ok m) :
    m.path = .ofProfile r.profile chain i ∧ m.profile = r.profile := by
  obtain ⟨key, -, -, hpath, hprofile, -⟩ := (Wallet.addressAt_eq_ok_iff w chain i m).mp hm
  rw [h.profile]
  exact ⟨hpath, hprofile⟩

end IsOn

/-! ## Printouts -/

/-- A run prints a report or a reason, never both, and the report can be read from what it prints. -/
theorem run_cases (args : List String) (s : Surroundings) :
    (∃ r, create args s.inForce s.settingsFile? = .ok r ∧
      run args s = ⟨r.toJson.pretty ++ "\n", "", 0⟩ ∧
      Json.parse? ofJson? (r.toJson.pretty ++ "\n") = some r) ∨
    ∃ e, create args s.inForce s.settingsFile? = .error e ∧ run args s = ⟨"", e.text ++ "\n", 1⟩ := by
  rw [run]
  cases create args s.inForce s.settingsFile? with
  | ok r => exact .inl ⟨r, rfl, rfl, r.parse?_answer⟩
  | error e => exact .inr ⟨e, rfl, rfl⟩

/-- **The report is complete or there is none.** A variable has the text that the environment or else the
file `.env` gives it. The count is the word behind the first flag, whatever follows it and whatever the
variable holds; without a flag it is what the variable holds, and it is the default if that is not set. A
word that is missing or is no 32-bit number is an error, and so is a variable with such a text. A variable
whose bytes are no text is no number either, and there it is the default all the same. A report is printed
exactly if a count is asked for, the wallet is opened and its signing key and all its addresses below the
count can be derived: it is a report on that wallet, under the profile that is configured, with as many
records of each chain, each of them that of its index, and the wallet finds all of them below the count.
Who reads what is printed has that report. Otherwise nothing is printed but the reason. -/
theorem complete_or_absent (args : List String) (s : Surroundings) :
    (∀ name, s.inForce.text? name = (s.environment.text? name).or (s.dotEnv.lookup name)) ∧
    (∀ n, Report.count args s.inForce = .ok n ↔ Asked args s.inForce n) ∧
    (∀ front, "--count" ∉ front →
      (args = front ++ ["--count"] → Report.count args s.inForce = .error .missingCount) ∧
      ∀ text back, args = front ++ "--count" :: text :: back → IsNoCount text →
        ∃ fault, Report.count args s.inForce = .error (.invalidCount text fault)) ∧
    ("--count" ∉ args →
      (∀ text, s.inForce.text? "ADDRESS_COUNT" = some text → IsNoCount text →
        ∃ fault, Report.count args s.inForce = .error (.invalidCountVariable text fault)) ∧
      ∀ bytes, s.inForce "ADDRESS_COUNT" = some bytes →
        ((∃ e, Report.count args s.inForce = .error e) ↔
          ∃ text, ofUtf8? bytes = some text ∧ IsNoCount text)) ∧
    (∀ r, create args s.inForce s.settingsFile? = .ok r ↔
      ∃ n w, Asked args s.inForce n ∧ Opens s.inForce s.settingsFile? w ∧ r.IsOn w n) ∧
    (∀ r w n, IsOn r w n →
      (∀ i m, r.receive[i.toNat]? = some m → w.receive i = .ok m ∧
        m.path = .ofProfile r.profile .receive i ∧ m.profile = r.profile) ∧
      (∀ i m, r.change[i.toNat]? = some m → w.change i = .ok m ∧
        m.path = .ofProfile r.profile .change i ∧ m.profile = r.profile) ∧
      ∀ m ∈ r.receive ++ r.change,
        ∃ found, w.find m.address n = .ok found ∧ found.address = m.address) ∧
    ((∃ r, create args s.inForce s.settingsFile? = .ok r ∧
        run args s = ⟨r.toJson.pretty ++ "\n", "", 0⟩ ∧
        Json.parse? ofJson? (r.toJson.pretty ++ "\n") = some r) ∨
      (¬∃ n w, Asked args s.inForce n ∧ Opens s.inForce s.settingsFile? w ∧ Derives w n) ∧
        ∃ e, create args s.inForce s.settingsFile? = .error e ∧
          run args s = ⟨"", e.text ++ "\n", 1⟩) := by
  refine ⟨Environment.text?_extend _ _, count_eq_ok_iff _ _, fun front hfirst => ⟨?_, ?_⟩,
    fun hflag => ⟨fun text hset htext => ?_, fun bytes hset => ?_⟩, create_eq_ok_iff _ _ _,
    fun r w n h => ⟨fun i m hm => ?_, fun i m hm => ?_, fun m => h.find⟩, ?_⟩
  · rintro rfl
    exact count_flag_nil hfirst
  · rintro text back rfl htext
    rw [count_flag hfirst]
    exact exists_error_of_isNoCount htext _
  · rw [count_of_notMem hflag, hset]
    exact exists_error_of_isNoCount htext _
  · rw [exists_error_of_notMem_iff hflag, Environment.text?, hset, Option.bind_some]
  · have hrecord := h.receive.record i m hm
    exact ⟨hrecord, h.path_of_addressAt hrecord⟩
  · have hrecord := h.change.record i m hm
    exact ⟨hrecord, h.path_of_addressAt hrecord⟩
  · refine (run_cases args s).imp_right ?_
    rintro ⟨e, he, hrun⟩
    refine ⟨fun hsteps => ?_, e, he, hrun⟩
    obtain ⟨r, hr⟩ := (exists_create_iff args s.inForce s.settingsFile?).mpr hsteps
    cases hr.symm.trans he

/-- Nothing is found but a count whose one byte begins no character. -/
def Surroundings.ofForeignCount : Surroundings where
  environment name := if name = "ADDRESS_COUNT" then some [0xff] else none
  dotEnv := []
  files _ := .missing

/-- The variable is set, and it is the numeral of no number. It is not refused: five addresses of a chain
are asked for. -/
theorem foreign_count_not_refused :
    Surroundings.ofForeignCount.inForce "ADDRESS_COUNT" = some [0xff] ∧
    (¬∃ (n : UInt32) (text : String), ofUtf8? [0xff] = some text ∧ Decimal.Spells text.toList n.toNat) ∧
    (¬∃ e, Report.count [] Surroundings.ofForeignCount.inForce = .error e) ∧
    Report.count [] Surroundings.ofForeignCount.inForce = .ok 5 := by
  have hforeign : ofUtf8? [0xff] = none := rfl
  have hcount : Report.count [] Surroundings.ofForeignCount.inForce = .ok 5 := rfl
  refine ⟨rfl, ?_, ?_, hcount⟩
  · rintro ⟨n, text, htext, -⟩
    cases hforeign.symm.trans htext
  · rintro ⟨e, he⟩
    cases hcount.symm.trans he

end Report

end SeedWallet
