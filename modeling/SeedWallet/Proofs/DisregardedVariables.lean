import SeedWallet.Proofs.SettingSources
import SeedWallet.Report

/-!
# Variables that cannot be read

A variable whose text is not of the type of its setting is taken for one that is not set. So the program
goes on with the default where one may have wished for something else: only the file is looked at so
closely that loading fails.

- `Setting.IsMisspelt`: the variable of a setting has a text that is not of its type.
- `Setting.inEnvironment_without`: such a variable counts for nothing.
- `Settings.load_of_inEnvironment`: loading looks at an environment through the single settings only.
- `Settings.error_of_load`: where loading fails it fails in every environment.
- `Report.create_congr`: what a report depends on.
- `Settings.misspelt_counts_as_unset`: what is loaded, and reported, is the same as without the variable.
-/

namespace SeedWallet

/-- The environment with that variable not set. -/
def Environment.without (env : Environment) (name : String) : Environment :=
  fun other => if other = name then none else env other

namespace Environment

theorem text?_without_self (env : Environment) (name : String) : (env.without name).text? name = none := by
  rw [text?, without, if_pos rfl, Option.bind_none]

theorem read_without {env : Environment} {name other : String} (h : other ≠ name) :
    (env.without name).read other = env.read other := by
  rw [read, read, without, if_neg h]

theorem text?_without {env : Environment} {name other : String} (h : other ≠ name) :
    (env.without name).text? other = env.text? other := by
  rw [text?, text?, without, if_neg h]

end Environment

namespace Setting

/-- Every setting has a variable of its own. -/
theorem eq_of_variableName {x y : Setting} (h : x.variableName = y.variableName) : x = y := by
  cases x <;> cases y <;> first | rfl | simp [variableName] at h

/-- The variable of the setting has a text that is not of its type. -/
def IsMisspelt (x : Setting) (env : Environment) : Prop :=
  ∃ text, env.text? x.variableName = some text ∧ x.ofText? text = none

variable {x : Setting} {env : Environment}

/-- What is misspelt is left at its default. -/
theorem IsMisspelt.inEnvironment_eq (h : x.IsMisspelt env) : x.inEnvironment env = x.fallback := by
  obtain ⟨text, hset, htext⟩ := h
  rw [inEnvironment, hset, Option.bind_some, htext, Option.getD_none]

/-- Without its variable a setting is left at its default. -/
theorem inEnvironment_without_self (x : Setting) (env : Environment) :
    x.inEnvironment (env.without x.variableName) = x.fallback := by
  rw [inEnvironment, Environment.text?_without_self, Option.bind_none, Option.getD_none]

/-- A misspelt variable may as well not be set, for all settings. -/
theorem inEnvironment_without (h : x.IsMisspelt env) (y : Setting) :
    y.inEnvironment (env.without x.variableName) = y.inEnvironment env := by
  by_cases hy : y = x
  · rw [hy, inEnvironment_without_self, h.inEnvironment_eq]
  · exact inEnvironment_congr (Environment.text?_without fun hname => hy (eq_of_variableName hname))

end Setting

namespace Settings

variable {env env' : Environment}

/-- Loading looks at an environment through the single settings only. -/
theorem load_of_inEnvironment (h : ∀ x : Setting, x.inEnvironment env = x.inEnvironment env')
    (file : Option SettingsFile) : load env file = load env' file := by
  cases file with
  | none => exact congrArg Except.ok (eq_of_get fun x => by rw [get_ofEnvironment, get_ofEnvironment, h])
  | some file => exact load_congr .rfl (fun _ => rfl) (fun _ => rfl) fun x _ => h x

/-- Where loading fails it fails in every environment. -/
theorem error_of_load {file : Option SettingsFile} {e : SettingsError} (h : load env file = .error e)
    (env' : Environment) : load env' file = .error e := by
  cases file with
  | none => cases h
  | some file =>
    have hloads : ¬file.Loads := fun hloads => by
      obtain ⟨s, hs, -⟩ := exists_load hloads env
      cases h.symm.trans hs
    rw [load_of_not_parses hloads] at h ⊢
    exact h

/-- A setting that no file gives is what the environment makes of it. -/
theorem get_of_load {file : Option SettingsFile} {s : Settings} (h : load env file = .ok s) {x : Setting}
    (hgiven : ∀ f ∈ file, f.given? x = none) : s.get x = x.inEnvironment env := by
  cases file with
  | none =>
    cases h
    exact get_ofEnvironment env x
  | some file =>
    have hget := (load_eq_ok_iff.mp h).2 x
    rw [hgiven file rfl] at hget
    exact (Option.some.inj hget).symm

end Settings

/-- A report depends on the settings and, beyond these, on two variables. -/
theorem Report.create_congr {env env' : Environment} {file : Option SettingsFile}
    (hload : Settings.load env file = Settings.load env' file)
    (hcount : env.text? "ADDRESS_COUNT" = env'.text? "ADDRESS_COUNT")
    (hphrase : env.read "WALLET_WORDS" = env'.read "WALLET_WORDS") (args : List String) :
    create args env file = create args env' file := by
  have hcounts : count args env = count args env' := by
    rw [count, count, hcount]
  have hopen : ∀ s, openWallet env s = openWallet env' s := fun s => by
    rw [openWallet, openWallet, hphrase]
  simp only [create, hload, hcounts, hopen]

namespace Settings

/-- **A variable that cannot be read counts as one that is not set.** The same settings are loaded
without it, and the same report is made or refused; if the file does not give the setting either, the
default is in force. Loading never fails because of the environment. -/
theorem misspelt_counts_as_unset (env : Environment) (file : Option SettingsFile) (x : Setting)
    (h : x.IsMisspelt env) :
    load env file = load (env.without x.variableName) file ∧
    (∀ args, Report.create args env file = Report.create args (env.without x.variableName) file) ∧
    (∀ s, load env file = .ok s → (∀ f ∈ file, f.given? x = none) → s.get x = x.fallback) ∧
    (∀ e, load env file = .error e → ∀ env', load env' file = .error e) := by
  have hload : load env file = load (env.without x.variableName) file :=
    load_of_inEnvironment (fun y => (Setting.inEnvironment_without h y).symm) file
  refine ⟨hload, fun args => ?_, fun s hs hgiven => ?_, fun e he env' => error_of_load he env'⟩
  · have hother : ∀ name ∈ ["ADDRESS_COUNT", "WALLET_WORDS"], name ≠ x.variableName := by
      cases x <;> simp [Setting.variableName]
    exact Report.create_congr hload (Environment.text?_without (hother _ (by simp))).symm
      (Environment.read_without (hother _ (by simp))).symm args
  · rw [get_of_load hs hgiven, h.inEnvironment_eq]

/-- The network is left open where its name is misspelt, beside a file that gives the purpose. -/
theorem misspelt_counts_as_unset_tesnet :
    Setting.IsMisspelt .network (.ofVariables [("WALLET_NETWORK", "tesnet")]) ∧
    load (.ofVariables [("WALLET_NETWORK", "tesnet")])
        (some (.ofText "wallet.toml" "[wallet]\npurpose = 49\n")) =
      .ok ⟨49, 0, 0, none, 1000, "info", "text"⟩ ∧
    (⟨49, 0, 0, none, 1000, "info", "text"⟩ : Settings).get .network =
      Setting.fallback .network := by
  have hmisspelt : Setting.IsMisspelt .network (.ofVariables [("WALLET_NETWORK", "tesnet")]) :=
    ⟨"tesnet", rfl, by decide⟩
  have hload : load (.ofVariables [("WALLET_NETWORK", "tesnet")])
      (some (.ofText "wallet.toml" "[wallet]\npurpose = 49\n")) =
    .ok ⟨49, 0, 0, none, 1000, "info", "text"⟩ := rfl
  obtain ⟨-, -, hfallback, -⟩ := misspelt_counts_as_unset (.ofVariables [("WALLET_NETWORK", "tesnet")])
    (some (.ofText "wallet.toml" "[wallet]\npurpose = 49\n")) .network hmisspelt
  have hgiven : (SettingsFile.ofText "wallet.toml" "[wallet]\npurpose = 49\n").given? .network =
    none := rfl
  exact ⟨hmisspelt, hload, hfallback _ hload fun f hf => by cases hf; exact hgiven⟩

/-- A misspelt network is not refused: the settings are valid, and their profile is on the main network.
-/
theorem misspelt_network_not_refused :
    (∃ text, (Environment.ofVariables [("WALLET_NETWORK", "tesnet")]).text? Setting.network.variableName =
      some text ∧ Setting.network.ofText? text = none) ∧
    ¬(∃ e, (load (.ofVariables [("WALLET_NETWORK", "tesnet")]) none >>= validate) = .error e) ∧
    (load (.ofVariables [("WALLET_NETWORK", "tesnet")]) none >>= profile) =
      .ok ⟨.nativeSegwit, 0, 0, .mainnet⟩ := by
  have hvalid : (load (.ofVariables [("WALLET_NETWORK", "tesnet")]) none >>= validate) = .ok () := rfl
  refine ⟨⟨"tesnet", rfl, rfl⟩, ?_, rfl⟩
  rintro ⟨e, he⟩
  cases hvalid.symm.trans he

end Settings

end SeedWallet
