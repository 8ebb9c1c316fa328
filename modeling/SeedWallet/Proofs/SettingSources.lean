import SeedWallet.Proofs.SettingPlaces

/-!
# Where settings come from

What is in force is described setting by setting: with a file that is read, each setting is what the file
sets it to, or else what the environment makes of it.

- `Setting.resolve?`: what a setting comes to.
- `SettingsFile.Loads`: files that can be used, as they are missing or are read.
- `Settings.load_eq_ok_iff`: settings in force are known by what each comes to.
- `Settings.load_congr`: the environment counts for the settings that the file does not give.
- `Settings.load_of_sameSection`, `Settings.load_of_empty`: nothing is given by leaving things out.
- `Settings.profile_eq_ok_iff`: the profile of settings in force.
- `Settings.file_over_environment`: the law as a whole.
-/

namespace SeedWallet

/-- The environment in which just these variables are set. -/
def Environment.ofVariables (settings : List (String × String)) : Environment :=
  fun name => (settings.lookup name).map utf8

/-- A file with that text. -/
def SettingsFile.ofText (name text : String) : SettingsFile :=
  ⟨name, .content (utf8 text)⟩

namespace Setting

/-- What the setting comes to with what a file has at its place. -/
def resolve? (x : Setting) (env : Environment) : Option Toml.Value → Option x.Value
  | some v => x.ofToml? v
  | none => some (x.inEnvironment env)

/-- What the file sets the setting to is in force, else what the environment makes of it. -/
theorem resolve?_eq_of_setting? {x : Setting} {v : Option Toml.Value} {a : Option x.Value}
    (h : Overrides.setting? x.ofToml? v = some a) (env : Environment) :
    x.resolve? env v = some (a.getD (x.inEnvironment env)) := by
  cases v with
  | none =>
    cases h
    rfl
  | some v =>
    obtain ⟨b, hb, rfl⟩ := Option.map_eq_some_iff.mp h
    exact hb

/-- The environment counts by the variable of the setting. -/
theorem inEnvironment_congr {x : Setting} {env env' : Environment}
    (h : env.text? x.variableName = env'.text? x.variableName) :
    x.inEnvironment env = x.inEnvironment env' := by
  rw [inEnvironment, inEnvironment, h]

/-- The environment counts only if the file does not give the setting. -/
theorem resolve?_congr {x : Setting} {env env' : Environment} {v : Option Toml.Value}
    (h : v = none → x.inEnvironment env = x.inEnvironment env') :
    x.resolve? env v = x.resolve? env' v := by
  cases v with
  | none => exact congrArg some (h rfl)
  | some v => rfl

end Setting

/-! ## Sections without content -/

/-- The two tables have the same section of that name, or none and one that is empty. -/
def Toml.SameSection (name : String) (es es' : Toml.Entries) : Prop :=
  Toml.find? name es = Toml.find? name es' ∨
    Toml.find? name es = none ∧ ∃ origin, Toml.find? name es' = some (.table origin [])

namespace Toml.SameSection

variable {name : String} {es es' : Toml.Entries}

theorem lookUp?_eq (h : SameSection name es es') (key : String) (position : Nat) :
    lookUp? name key position es = lookUp? name key position es' := by
  rcases h with h | ⟨hmissing, origin, hempty⟩
  · rw [lookUp?, lookUp?, h]
  · rw [lookUp?, lookUp?, hmissing, hempty]
    rfl

theorem all_isSection_eq (h : SameSection name es es') :
    (find? name es).all Overrides.isSection = (find? name es').all Overrides.isSection := by
  rcases h with h | ⟨hmissing, origin, hempty⟩
  · rw [h]
  · rw [hmissing, hempty]
    rfl

end Toml.SameSection

theorem Setting.sectionName_mem (x : Setting) : x.sectionName ∈ ["wallet", "logging"] := by
  cases x <;> simp [sectionName]

namespace SettingsFile

/-- A file that can be used is missing, or is read. -/
def Loads (file : SettingsFile) : Prop :=
  file.state = .missing ∨ file.Parses

/-- Why a file is refused that is there and does not parse. -/
def fault (file : SettingsFile) : SettingsError :=
  match file.text? with
  | none => .unreadableFile file.name
  | some _ => .malformedFile

theorem given?_of_missing {file : SettingsFile} (h : file.state = .missing) (x : Setting) :
    file.given? x = none := by
  rw [given?, entries?, text?, h]
  rfl

theorem not_missing_of_entries? {file : SettingsFile} {es : Toml.Entries} (h : file.entries? = some es) :
    file.state ≠ .missing := by
  intro hmissing
  rw [entries?, text?, hmissing] at h
  cases h

theorem Parses.not_missing {file : SettingsFile} (h : file.Parses) : file.state ≠ .missing :=
  not_missing_of_entries? (Option.some_get h.toml).symm

theorem fault_of_entries? {file : SettingsFile} {es : Toml.Entries} (h : file.entries? = some es) :
    file.fault = .malformedFile := by
  obtain ⟨text, htext, -⟩ := Option.bind_eq_some_iff.mp h
  rw [fault, htext]

theorem loads_iff_of_entries? {file : SettingsFile} {es : Toml.Entries} (h : file.entries? = some es) :
    file.Loads ↔ (∀ name ∈ ["wallet", "logging"], (Toml.find? name es).all Overrides.isSection = true) ∧
      ∀ (x : Setting) (v : Toml.Value), x.given? es = some v → (x.ofToml? v).isSome := by
  rw [Loads, or_iff_right (not_missing_of_entries? h), parses_iff_of_entries? h]

end SettingsFile

namespace Settings

variable {env env' : Environment} {file file' : SettingsFile} {s : Settings}

/-- A file that is there is read, and put over the environment, or refused. -/
theorem load_of_not_missing (h : file.state ≠ .missing) (env : Environment) :
    load env (some file) =
      match file.text?.bind Overrides.read? with
      | some o => .ok ((ofEnvironment env).override o)
      | none => .error file.fault := by
  have hload : load env (some file) = ofFile env file := by
    rw [load]
    split
    · exact absurd ‹_› h
    · rfl
  rw [hload, ofFile, SettingsFile.fault]
  cases file.text? with
  | none => rfl
  | some text =>
    rw [Option.bind_some]
    dsimp only
    cases Overrides.read? text <;> rfl

/-- A file that is there and does not parse is an error. -/
theorem load_of_not_parses (h : ¬file.Loads) (env : Environment) :
    load env (some file) = .error file.fault := by
  obtain ⟨hmissing, hparses⟩ := not_or.mp h
  rw [load_of_not_missing hmissing]
  cases hread : file.text?.bind Overrides.read? with
  | none => rfl
  | some o => exact absurd ((Overrides.read?_eq_some_iff file o).mp hread).1 hparses

/-- From a file that can be used the settings are loaded, and each is what it comes to. -/
theorem exists_load (h : file.Loads) (env : Environment) :
    ∃ s, load env (some file) = .ok s ∧ ∀ x, x.resolve? env (file.given? x) = some (s.get x) := by
  rcases h with hmissing | hparses
  · refine ⟨ofEnvironment env, by rw [load, hmissing], fun x => ?_⟩
    rw [SettingsFile.given?_of_missing hmissing, get_ofEnvironment]
    rfl
  · obtain ⟨o, ho⟩ := Overrides.exists_read? hparses
    refine ⟨(ofEnvironment env).override o, ?_, fun x => ?_⟩
    · rw [load_of_not_missing hparses.not_missing, ho]
    · rw [Setting.resolve?_eq_of_setting? (((Overrides.read?_eq_some_iff file o).mp ho).2 x) env,
        get_override, get_ofEnvironment]

/-- The settings in force are known by what each comes to. -/
theorem load_eq_ok_iff :
    load env (some file) = .ok s ↔
      file.Loads ∧ ∀ x, x.resolve? env (file.given? x) = some (s.get x) := by
  constructor
  · intro h
    have hloads : file.Loads := Classical.byContradiction fun hnot => by
      rw [load_of_not_parses hnot] at h
      cases h
    obtain ⟨t, ht, hget⟩ := exists_load hloads env
    cases ht.symm.trans h
    exact ⟨hloads, hget⟩
  · rintro ⟨hloads, hs⟩
    obtain ⟨t, ht, hget⟩ := exists_load hloads env
    rw [ht, eq_of_get fun x => Option.some.inj ((hget x).symm.trans (hs x))]

/-- The environments count for the settings that are not given, and the files for what they give. -/
theorem load_congr (hloads : file.Loads ↔ file'.Loads) (hfault : ¬file.Loads → file.fault = file'.fault)
    (hgiven : ∀ x, file.given? x = file'.given? x)
    (henv : ∀ x : Setting, file.given? x = none → x.inEnvironment env = x.inEnvironment env') :
    load env (some file) = load env' (some file') := by
  by_cases h : file.Loads
  · obtain ⟨s, hs, hget⟩ := exists_load h env
    rw [hs, eq_comm, load_eq_ok_iff]
    refine ⟨hloads.mp h, fun x => ?_⟩
    rw [← hgiven, ← Setting.resolve?_congr (henv x), hget]
  · rw [load_of_not_parses h, load_of_not_parses (mt hloads.mpr h), hfault h]

/-- A section that a file does not have counts as one without keys. -/
theorem load_of_sameSection {es es' : Toml.Entries} (h : file.entries? = some es)
    (h' : file'.entries? = some es')
    (hsame : ∀ name ∈ ["wallet", "logging"], Toml.SameSection name es es') (env : Environment) :
    load env (some file) = load env (some file') := by
  have hgiven : ∀ x : Setting, x.given? es = x.given? es' := fun x =>
    (hsame _ x.sectionName_mem).lookUp?_eq _ _
  have hsections : (∀ name ∈ ["wallet", "logging"],
      (Toml.find? name es).all Overrides.isSection = true) ↔
        ∀ name ∈ ["wallet", "logging"], (Toml.find? name es').all Overrides.isSection = true :=
    forall₂_congr fun name hname => by rw [(hsame name hname).all_isSection_eq]
  refine load_congr ?_ (fun _ => ?_) (fun x => ?_) fun _ _ => rfl
  · rw [SettingsFile.loads_iff_of_entries? h, SettingsFile.loads_iff_of_entries? h', hsections]
    simp only [hgiven]
  · rw [SettingsFile.fault_of_entries? h, SettingsFile.fault_of_entries? h']
  · rw [SettingsFile.given?_of_entries? h, SettingsFile.given?_of_entries? h', hgiven]

/-- A file that is not there counts as one without content. -/
theorem load_of_empty (env : Environment) (name : String) :
    load env (some ⟨name, .content []⟩) = load env none := by
  have hread : (SettingsFile.text? ⟨name, .content []⟩).bind Overrides.read? = some .empty := rfl
  rw [load_of_not_missing (by simp), hread]
  exact congrArg Except.ok (override_empty _)

/-- The profile is that of the purpose, on the network in force or else on that of the coin type in
force. -/
theorem profile_eq_ok_iff (s : Settings) (p : Profile) :
    s.profile = .ok p ↔
      Purpose.ofNumber s.purpose = .ok p.purpose ∧ p.coinType = s.coinType ∧ p.account = s.account ∧
        p.network = s.network.getD (.ofCoinType s.coinType) := by
  rw [profile, Profile.create]
  cases hpurpose : Purpose.ofNumber s.purpose with
  | error e => simp [Except.map]
  | ok purpose =>
    cases hnetwork : s.network with
    | none => cases p; simp [Except.map, Profile.ofPurpose, eq_comm]
    | some network => cases p; simp [Except.map, Profile.ofPurpose, Profile.withNetwork, eq_comm]

/-- **A file comes before the environment, setting by setting.** Settings are loaded with a file exactly
if it is missing or parses, and else it is an error. Each setting is what the file sets it to, or, if the
file does not give it, what it is without a file; nothing but that one value in the file and that one
variable counts for it. So variables whose settings the file gives are of no account. A section that is
missing counts as one without keys, and a file that is missing as one without content, or as none. The
profile is on the network in force, or on that of the coin type in force. -/
theorem file_over_environment (env : Environment) (file : SettingsFile) :
    ((∃ s, load env (some file) = .ok s) ↔ file.state = .missing ∨ file.Parses) ∧
    (file.state ≠ .missing → ¬file.Parses → load env (some file) = .error file.fault) ∧
    (∀ s, load env (some file) = .ok s → ∀ x : Setting,
      match file.given? x with
      | some v => x.ofToml? v = some (s.get x)
      | none => s.get x = (ofEnvironment env).get x) ∧
    (∀ env' file' s s', load env (some file) = .ok s → load env' (some file') = .ok s' →
      ∀ x : Setting, file.given? x = file'.given? x →
        (file.given? x = none → env.text? x.variableName = env'.text? x.variableName) →
          s.get x = s'.get x) ∧
    (∀ env', (∀ x : Setting, file.given? x = none →
        env.text? x.variableName = env'.text? x.variableName) →
      load env (some file) = load env' (some file)) ∧
    (∀ file' es es', file.entries? = some es → file'.entries? = some es' →
      (∀ name ∈ ["wallet", "logging"], Toml.SameSection name es es') →
        load env (some file) = load env (some file')) ∧
    (load env none = .ok (ofEnvironment env) ∧
      ∀ name, load env (some ⟨name, .missing⟩) = load env none ∧
        load env (some ⟨name, .content []⟩) = load env none) ∧
    (∀ (s : Settings) (p : Profile), s.profile = .ok p ↔
      Purpose.ofNumber s.purpose = .ok p.purpose ∧ p.coinType = s.coinType ∧ p.account = s.account ∧
        p.network = s.network.getD (.ofCoinType s.coinType)) := by
  refine ⟨⟨fun ⟨s, hs⟩ => (load_eq_ok_iff.mp hs).1, fun h => ?_⟩, fun hmissing hparses => ?_,
    fun s hs x => ?_, fun env' file' s s' hs hs' x hgiven henv => ?_, fun env' henv => ?_,
    fun file' es es' h h' hsame => load_of_sameSection h h' hsame env,
    ⟨rfl, fun name => ⟨rfl, load_of_empty env name⟩⟩,
    profile_eq_ok_iff⟩
  · obtain ⟨s, hs, -⟩ := exists_load h env
    exact ⟨s, hs⟩
  · exact load_of_not_parses (not_or.mpr ⟨hmissing, hparses⟩) env
  · have hget := (load_eq_ok_iff.mp hs).2 x
    cases hx : file.given? x with
    | some v => rwa [hx] at hget
    | none =>
      rw [hx] at hget
      rw [get_ofEnvironment]
      exact (Option.some.inj hget).symm
  · have hget := (load_eq_ok_iff.mp hs).2 x
    have hget' := (load_eq_ok_iff.mp hs').2 x
    rw [Setting.resolve?_congr fun hx => Setting.inEnvironment_congr (henv hx), hgiven] at hget
    exact Option.some.inj (hget.symm.trans hget')
  · exact load_congr .rfl (fun _ => rfl) (fun _ => rfl) fun x hx =>
      Setting.inEnvironment_congr (henv x hx)

/-- The coin type is the file's, whatever the environment says, and so the network is the test network;
the account is the environment's. An empty section changes nothing, and what is no TOML is refused. -/
theorem file_over_environment_coinType :
    (load (.ofVariables [("WALLET_COIN_TYPE", "0"), ("WALLET_ACCOUNT", "7")])
        (some (.ofText "wallet.toml" "[wallet]\ncoin_type = 1\n")) =
      .ok ⟨84, 1, 7, none, 1000, "info", "text"⟩) ∧
    load (.ofVariables [("WALLET_COIN_TYPE", "0"), ("WALLET_ACCOUNT", "7")])
        (some (.ofText "wallet.toml" "[wallet]\ncoin_type = 1\n")) =
      load (.ofVariables [("WALLET_COIN_TYPE", "2"), ("WALLET_ACCOUNT", "7")])
        (some (.ofText "wallet.toml" "[wallet]\ncoin_type = 1\n")) ∧
    load (.ofVariables [("WALLET_COIN_TYPE", "0"), ("WALLET_ACCOUNT", "7")])
        (some (.ofText "wallet.toml" "[wallet]\ncoin_type = 1\n")) =
      load (.ofVariables [("WALLET_COIN_TYPE", "0"), ("WALLET_ACCOUNT", "7")])
        (some (.ofText "wallet.toml" "[wallet]\ncoin_type = 1\n[logging]\n")) ∧
    load (.ofVariables [("WALLET_COIN_TYPE", "0"), ("WALLET_ACCOUNT", "7")])
        (some (.ofText "wallet.toml" "[wallet")) = .error .malformedFile ∧
    (⟨84, 1, 7, none, 1000, "info", "text"⟩ : Settings).get .account =
      (ofEnvironment (.ofVariables [("WALLET_COIN_TYPE", "0"), ("WALLET_ACCOUNT", "7")])).get .account ∧
    (⟨84, 1, 7, none, 1000, "info", "text"⟩ : Settings).profile = .ok ⟨.nativeSegwit, 1, 7, .testnet⟩ := by
  obtain ⟨-, -, hsetting, -, hvariables, hsection, -, hprofile⟩ := file_over_environment
    (.ofVariables [("WALLET_COIN_TYPE", "0"), ("WALLET_ACCOUNT", "7")])
    (.ofText "wallet.toml" "[wallet]\ncoin_type = 1\n")
  obtain ⟨-, hmalformed, -⟩ := file_over_environment
    (.ofVariables [("WALLET_COIN_TYPE", "0"), ("WALLET_ACCOUNT", "7")]) (.ofText "wallet.toml" "[wallet")
  have hload : load (.ofVariables [("WALLET_COIN_TYPE", "0"), ("WALLET_ACCOUNT", "7")])
      (some (.ofText "wallet.toml" "[wallet]\ncoin_type = 1\n")) =
    .ok ⟨84, 1, 7, none, 1000, "info", "text"⟩ := rfl
  have hcoinType : (SettingsFile.ofText "wallet.toml" "[wallet]\ncoin_type = 1\n").given? .coinType =
    some (.integer 1) := rfl
  have haccount : (SettingsFile.ofText "wallet.toml" "[wallet]\ncoin_type = 1\n").given? .account =
    none := rfl
  have hentries : (SettingsFile.ofText "wallet.toml" "[wallet]\ncoin_type = 1\n").entries? =
    some [("wallet", .table .header [("coin_type", .integer 1)])] := rfl
  have hempty : (SettingsFile.ofText "wallet.toml" "[wallet]\ncoin_type = 1\n[logging]\n").entries? =
    some [("wallet", .table .header [("coin_type", .integer 1)]), ("logging", .table .header [])] := rfl
  have hnone : (SettingsFile.ofText "wallet.toml" "[wallet").entries? = none := rfl
  have hget := hsetting _ hload .account
  rw [haccount] at hget
  refine ⟨hload, hvariables _ fun x hx => ?_, hsection _ _ _ hentries hempty ?_,
    hmalformed FileState.noConfusion fun h => ?_, hget, (hprofile _ _).mpr ⟨rfl, rfl, rfl, rfl⟩⟩
  · cases x with
    | coinType => exact absurd (hcoinType.symm.trans hx) nofun
    | _ => rfl
  · intro name hname
    rcases List.mem_cons.mp hname with rfl | hname
    · exact .inl rfl
    · cases List.mem_singleton.mp hname
      exact .inr ⟨rfl, .header, rfl⟩
  · have htoml := h.toml
    rw [hnone] at htoml
    cases htoml

end Settings

end SeedWallet
