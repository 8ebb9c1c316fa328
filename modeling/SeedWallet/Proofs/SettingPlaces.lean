import SeedWallet.Settings

/-!
# The places of settings

Each of the seven settings has one environment variable and one place in a settings file, and neither
says anything about the other settings. A file is read exactly if what it has at each place is of the
type that is expected there.

- `Setting`: the settings one by one, with the variable, the place in a file and the default of each.
- `Settings.get`, `Overrides.get?`: what a setting is in settings in force, and in what a file gives.
- `Settings.get_ofEnvironment`, `Settings.get_override`: how the environment and a file decide on it.
- `Toml.lookUp?`: the value at a place of a section, which is a table or an array.
- `Overrides.ofEntries?_eq_some_iff`: the settings of a table are read from their places.
- `SettingsFile.given?`, `SettingsFile.Parses`: what a file has at a place; files that are read.
- `Overrides.read?_eq_some_iff`: the settings of a file are read from their places.
-/

namespace SeedWallet

/-- The single settings. -/
inductive Setting where
  | purpose
  | coinType
  | account
  | network
  | gapLimit
  | logLevel
  | logFormat
  deriving DecidableEq, Repr

namespace Setting

/-! ## The sources of a setting -/

/-- What a setting is set to. The network may be left open. -/
def Value : Setting → Type
  | .network => Option Network
  | .logLevel | .logFormat => String
  | _ => UInt32

/-- The environment variable of the setting. -/
def variableName : Setting → String
  | .purpose => "WALLET_PURPOSE"
  | .coinType => "WALLET_COIN_TYPE"
  | .account => "WALLET_ACCOUNT"
  | .network => "WALLET_NETWORK"
  | .gapLimit => "WALLET_GAP_LIMIT"
  | .logLevel => "LOG_LEVEL"
  | .logFormat => "LOG_FORMAT"

/-- The section of the file in which the setting stands. -/
def sectionName : Setting → String
  | .logLevel | .logFormat => "logging"
  | _ => "wallet"

/-- The key of the setting in its section. -/
def key : Setting → String
  | .purpose => "purpose"
  | .coinType => "coin_type"
  | .account => "account"
  | .network => "network"
  | .gapLimit => "gap_limit"
  | .logLevel => "level"
  | .logFormat => "format"

/-- The place of the setting in a section that is written as an array. -/
def position : Setting → Nat
  | .purpose | .logLevel => 0
  | .coinType | .logFormat => 1
  | .account => 2
  | .network => 3
  | .gapLimit => 4

/-- What the text of a variable sets the setting to, if it is of its type. -/
def ofText? : (x : Setting) → String → Option x.Value
  | .network, s => (Network.parse s).toOption.map some
  | .logLevel, s | .logFormat, s => some s
  | .purpose, s | .coinType, s | .account, s | .gapLimit, s => (Decimal.readUInt32 s).toOption

/-- What a value in a file sets the setting to, if it is of its type. -/
def ofToml? : (x : Setting) → Toml.Value → Option x.Value
  | .network, v => (Overrides.networkOf? v).map some
  | .logLevel, v | .logFormat, v => v.text?
  | .purpose, v | .coinType, v | .account, v | .gapLimit, v => v.uint32?

/-- What the setting is if nothing sets it. -/
def fallback : (x : Setting) → x.Value
  | .purpose => (84 : UInt32)
  | .coinType | .account => (0 : UInt32)
  | .network => (none : Option Network)
  | .gapLimit => (1000 : UInt32)
  | .logLevel => "info"
  | .logFormat => "text"

/-- What the environment makes of the setting. -/
def inEnvironment (x : Setting) (env : Environment) : x.Value :=
  ((env.text? x.variableName).bind x.ofText?).getD x.fallback

end Setting

/-- The value that a table has at a key of a section, or at a place of a section that is an array. -/
def Toml.lookUp? (name key : String) (position : Nat) (es : Toml.Entries) : Option Toml.Value :=
  match Toml.find? name es with
  | some (.table _ t) => Toml.find? key t
  | some v => v.elements?.bind (·[position]?)
  | none => none

/-- The value that a file's table gives a setting. -/
def Setting.given? (x : Setting) (es : Toml.Entries) : Option Toml.Value :=
  Toml.lookUp? x.sectionName x.key x.position es

/-- The setting in force. -/
def Settings.get (s : Settings) : (x : Setting) → x.Value
  | .purpose => s.purpose
  | .coinType => s.coinType
  | .account => s.account
  | .network => s.network
  | .gapLimit => s.gapLimit
  | .logLevel => s.logLevel
  | .logFormat => s.logFormat

/-- What a file sets the setting to. -/
def Overrides.get? (o : Overrides) : (x : Setting) → Option x.Value
  | .purpose => o.purpose
  | .coinType => o.coinType
  | .account => o.account
  | .network => o.network.map some
  | .gapLimit => o.gapLimit
  | .logLevel => o.logLevel
  | .logFormat => o.logFormat

namespace Settings

/-- Settings are known by the single ones. -/
theorem eq_of_get {s t : Settings} (h : ∀ x, s.get x = t.get x) : s = t := by
  cases s
  cases t
  cases h .purpose
  cases h .coinType
  cases h .account
  cases h .network
  cases h .gapLimit
  cases h .logLevel
  cases h .logFormat
  rfl

/-- Without a file the environment decides on each setting. -/
theorem get_ofEnvironment (env : Environment) (x : Setting) :
    (ofEnvironment env).get x = x.inEnvironment env := by
  cases x with
  | network =>
    show (env.text? "WALLET_NETWORK").bind _ = ((env.text? "WALLET_NETWORK").bind _).getD none
    cases env.text? "WALLET_NETWORK" with
    | none => rfl
    | some s =>
      show (Network.parse s).toOption = ((Network.parse s).toOption.map some).getD none
      cases (Network.parse s).toOption <;> rfl
  | logLevel =>
    show (env.text? "LOG_LEVEL").getD "info" = ((env.text? "LOG_LEVEL").bind some).getD "info"
    cases env.text? "LOG_LEVEL" <;> rfl
  | logFormat =>
    show (env.text? "LOG_FORMAT").getD "text" = ((env.text? "LOG_FORMAT").bind some).getD "text"
    cases env.text? "LOG_FORMAT" <;> rfl
  | _ => rfl

/-- A file decides on the settings that it gives. -/
theorem get_override (s : Settings) (o : Overrides) (x : Setting) :
    (s.override o).get x = (o.get? x).getD (s.get x) := by
  cases x with
  | network =>
    show o.network.or s.network = (o.network.map some).getD s.network
    cases o.network <;> rfl
  | _ => rfl

end Settings

/-! ## Files -/

namespace Overrides

/-- Whether a value may be a section. -/
def isSection : Toml.Value → Bool
  | .table _ _ | .moment _ | .array _ | .tables _ => true
  | _ => false

/-- The values of a section's keys are those that are looked up one by one. -/
theorem valuesOf?_eq (name : String) (keys : List String) (es : Toml.Entries) :
    valuesOf? name keys es =
      if (Toml.find? name es).all isSection then
        some (keys.mapIdx fun i key => Toml.lookUp? name key i es)
      else none := by
  have hplaces : ∀ xs : List Toml.Value,
      (List.range keys.length).map (fun i => xs[i]?) = keys.mapIdx fun i _ => xs[i]? := fun xs =>
    List.ext_getElem (by simp) (by simp)
  unfold valuesOf? Toml.lookUp?
  cases Toml.find? name es with
  | none =>
    show some (keys.map fun _ => none) = some (keys.mapIdx fun _ _ => none)
    exact congrArg some (List.ext_getElem (by simp) (by simp))
  | some v =>
    cases v with
    -- A table and a date are looked up key by key, the other two by the places of the keys.
    | table origin t =>
      rw [Option.all_some, isSection, if_pos rfl]
      exact congrArg some (List.ext_getElem (by simp) (by simp))
    | moment s =>
      rw [Option.all_some, isSection, if_pos rfl]
      exact congrArg some (List.ext_getElem (by simp) (by simp [Toml.Value.elements?]))
    | array xs => exact congrArg some (hplaces xs)
    | tables ts => exact congrArg some (hplaces _)
    | _ => rfl

/-- A file that does not name the network leaves it as it is, it cannot leave it open again. -/
theorem setting?_network (v : Option Toml.Value) (n : Option Network) :
    setting? (Setting.ofToml? .network) v = some (n.map some) ↔ setting? networkOf? v = some n := by
  cases v with
  | none =>
    show some (none : Option (Option Network)) = some (n.map some) ↔ some none = some n
    cases n <;> simp
  | some v =>
    show ((networkOf? v).map some).map some = some (n.map some) ↔ (networkOf? v).map some = some n
    cases networkOf? v <;> cases n <;> simp

/-- A table gives the settings that are read from its sections key by key. -/
theorem ofEntries?_eq_some_iff (es : Toml.Entries) (o : Overrides) :
    ofEntries? es = some o ↔
      (∀ name ∈ ["wallet", "logging"], (Toml.find? name es).all isSection = true) ∧
        ∀ x : Setting, setting? x.ofToml? (x.given? es) = some (o.get? x) := by
  unfold ofEntries?
  rw [valuesOf?_eq, valuesOf?_eq, List.forall_mem_cons, List.forall_mem_singleton]
  by_cases hwallet : (Toml.find? "wallet" es).all isSection = true
  · by_cases hlogging : (Toml.find? "logging" es).all isSection = true
    · -- Both lists of values are spelled out now, and each value is the one at the place of a setting.
      rw [if_pos hwallet, if_pos hlogging]
      show (do
        return (⟨← setting? Toml.Value.uint32? (Setting.given? .purpose es),
          ← setting? Toml.Value.uint32? (Setting.given? .coinType es),
          ← setting? Toml.Value.uint32? (Setting.given? .account es),
          ← setting? networkOf? (Setting.given? .network es),
          ← setting? Toml.Value.uint32? (Setting.given? .gapLimit es),
          ← setting? Toml.Value.text? (Setting.given? .logLevel es),
          ← setting? Toml.Value.text? (Setting.given? .logFormat es)⟩ : Overrides)) = some o ↔ _
      simp only [Option.bind_eq_bind, Option.bind_eq_some_iff, hwallet, hlogging, true_and]
      constructor
      · rintro ⟨_, hpurpose, _, hcoin, _, haccount, _, hnetwork, _, hgap, _, hlevel, _, hformat, h⟩
        cases h
        intro x
        cases x with
        | purpose => exact hpurpose
        | coinType => exact hcoin
        | account => exact haccount
        | network => exact (setting?_network _ _).mpr hnetwork
        | gapLimit => exact hgap
        | logLevel => exact hlevel
        | logFormat => exact hformat
      · intro h
        exact ⟨_, h .purpose, _, h .coinType, _, h .account, _,
          (setting?_network _ _).mp (h .network), _, h .gapLimit, _, h .logLevel, _, h .logFormat, rfl⟩
    · rw [if_neg hlogging]
      simp [hlogging]
  · rw [if_neg hwallet]
    simp [hwallet]

end Overrides

namespace SettingsFile

/-- The table that the file spells. -/
def entries? (file : SettingsFile) : Option Toml.Entries :=
  file.text?.bind Toml.read?

/-- The value that the file gives a setting. -/
def given? (file : SettingsFile) (x : Setting) : Option Toml.Value :=
  file.entries?.bind x.given?

/-- The file is TOML, its two sections are sections, and its settings are of their types. -/
structure Parses (file : SettingsFile) : Prop where
  toml : file.entries?.isSome
  sections : ∀ es ∈ file.entries?, ∀ name ∈ ["wallet", "logging"],
    (Toml.find? name es).all Overrides.isSection = true
  types : ∀ x v, file.given? x = some v → (x.ofToml? v).isSome

variable {file : SettingsFile} {es : Toml.Entries}

theorem given?_of_entries? (h : file.entries? = some es) (x : Setting) :
    file.given? x = x.given? es := by
  rw [given?, h, Option.bind_some]

/-- Whether a table parses is up to its sections and what they give. -/
theorem parses_iff_of_entries? (h : file.entries? = some es) :
    file.Parses ↔ (∀ name ∈ ["wallet", "logging"], (Toml.find? name es).all Overrides.isSection = true) ∧
      ∀ (x : Setting) (v : Toml.Value), x.given? es = some v → (x.ofToml? v).isSome := by
  constructor
  · intro hparses
    exact ⟨hparses.sections es h, fun x v hv =>
      hparses.types x v ((given?_of_entries? h x).trans hv)⟩
  · rintro ⟨hsections, htypes⟩
    refine ⟨by rw [h]; rfl, fun es' hes' => ?_, fun x v hv => htypes x v ?_⟩
    · cases h.symm.trans hes'
      exact hsections
    · rw [← given?_of_entries? h, hv]

end SettingsFile

namespace Overrides

/-- Values of the right types are settings. -/
theorem exists_of_types {given : Setting → Option Toml.Value}
    (h : ∀ x v, given x = some v → (x.ofToml? v).isSome) :
    ∃ o : Overrides, ∀ x, setting? x.ofToml? (given x) = some (o.get? x) := by
  have hsetting : ∀ x : Setting, ∃ a, setting? x.ofToml? (given x) = some a := by
    intro x
    cases hx : given x with
    | none => exact ⟨none, rfl⟩
    | some v =>
      obtain ⟨a, ha⟩ := Option.isSome_iff_exists.mp (h x v hx)
      exact ⟨some a, by rw [setting?, ha]; rfl⟩
  have hnetwork : ∃ n, setting? networkOf? (given .network) = some n := by
    cases hx : given .network with
    | none => exact ⟨none, rfl⟩
    | some v =>
      obtain ⟨n, hn⟩ := Option.isSome_iff_exists.mp (h .network v hx)
      obtain ⟨n, hn, -⟩ := Option.map_eq_some_iff.mp hn
      exact ⟨some n, by rw [setting?, hn]; rfl⟩
  obtain ⟨purpose, hpurpose⟩ := hsetting .purpose
  obtain ⟨coinType, hcoinType⟩ := hsetting .coinType
  obtain ⟨account, haccount⟩ := hsetting .account
  obtain ⟨network, hnetwork⟩ := hnetwork
  obtain ⟨gapLimit, hgapLimit⟩ := hsetting .gapLimit
  obtain ⟨logLevel, hlogLevel⟩ := hsetting .logLevel
  obtain ⟨logFormat, hlogFormat⟩ := hsetting .logFormat
  refine ⟨⟨purpose, coinType, account, network, gapLimit, logLevel, logFormat⟩, fun x => ?_⟩
  cases x with
  | purpose => exact hpurpose
  | coinType => exact hcoinType
  | account => exact haccount
  | network => exact (setting?_network _ _).mpr hnetwork
  | gapLimit => exact hgapLimit
  | logLevel => exact hlogLevel
  | logFormat => exact hlogFormat

/-- A file gives settings exactly if it parses, and then each of them is read from its place. -/
theorem read?_eq_some_iff (file : SettingsFile) (o : Overrides) :
    file.text?.bind read? = some o ↔
      file.Parses ∧ ∀ x, setting? x.ofToml? (file.given? x) = some (o.get? x) := by
  have htext : file.text?.bind read? = file.entries?.bind ofEntries? := by
    rw [SettingsFile.entries?, Option.bind_assoc]
    rfl
  rw [htext]
  cases hentries : file.entries? with
  | none =>
    have htoml : ¬file.Parses := fun h => by simpa [hentries] using h.toml
    simp [htoml]
  | some es =>
    rw [Option.bind_some, ofEntries?_eq_some_iff, SettingsFile.parses_iff_of_entries? hentries]
    simp only [SettingsFile.given?_of_entries? hentries]
    refine and_congr_left fun hsettings => ⟨fun hsections => ⟨hsections, fun x v hx => ?_⟩, And.left⟩
    obtain ⟨a, ha, -⟩ := Option.map_eq_some_iff.mp (hx ▸ hsettings x)
    exact Option.isSome_iff_exists.mpr ⟨a, ha⟩

theorem exists_read? {file : SettingsFile} (h : file.Parses) :
    ∃ o, file.text?.bind read? = some o := by
  obtain ⟨o, ho⟩ := exists_of_types h.types
  exact ⟨o, (read?_eq_some_iff file o).mpr ⟨h, ho⟩⟩

end Overrides

end SeedWallet
