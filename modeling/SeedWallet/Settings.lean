import SeedWallet.Environment
import SeedWallet.Profile
import SeedWallet.Toml.Reader

/-!
# Settings

There are seven settings. Each is taken from the settings file if the file gives it, else from its
environment variable if that can be read, else it has a default.

- `Settings`: the settings in force; `Settings.profile`, `Settings.validate`: what they come to.
- `Settings.ofEnvironment`: what the environment and the defaults give.
- `Overrides`: what a file gives; `Overrides.read?` reads it from the file's text.
- `Settings.load`: the settings of an environment and a file, which need not be there.
-/

namespace SeedWallet

/-- The settings in force. -/
structure Settings where
  purpose : UInt32
  coinType : UInt32
  account : UInt32
  /-- The network, if it is not left to the coin type. -/
  network : Option Network
  /-- How far addresses are searched. -/
  gapLimit : UInt32
  logLevel : String
  logFormat : String
  deriving DecidableEq, Repr

/-- The settings that a file gives. -/
structure Overrides where
  purpose : Option UInt32
  coinType : Option UInt32
  account : Option UInt32
  network : Option Network
  gapLimit : Option UInt32
  logLevel : Option String
  logFormat : Option String
  deriving DecidableEq, Repr

/-! ## The file's settings -/

namespace Overrides

/-- What a file without settings gives. -/
def empty : Overrides :=
  ⟨none, none, none, none, none, none, none⟩

/-- The values of the keys of a section. A section is a table, in which other keys are of no account,
or an array of the values in the order of the keys, which may end early or go on. A date or time
counts as a table with a foreign key. -/
def sectionValues? (keys : List String) : Toml.Value → Option (List (Option Toml.Value))
  | .table _ es => some (keys.map fun key => Toml.find? key es)
  | .moment _ => some (keys.map fun _ => none)
  | v => v.elements?.map fun xs => (List.range keys.length).map fun i => xs[i]?

/-- The values of the keys of a section that may be missing. -/
def valuesOf? (name : String) (keys : List String) (es : Toml.Entries) :
    Option (List (Option Toml.Value)) :=
  match Toml.find? name es with
  | some v => sectionValues? keys v
  | none => some (keys.map fun _ => none)

/-- A setting that may be missing, but has to be of its type if it is there. -/
def setting? {α : Type} (decode : Toml.Value → Option α) : Option Toml.Value → Option (Option α)
  | some v => (decode v).map some
  | none => some none

/-- Whether a value is without content. -/
def isVoid : Toml.Value → Bool
  | .array [] | .table _ [] | .tables [] => true
  | _ => false

/-- A network: its name, or a table whose one key is its name and has no content. -/
def networkOf? : Toml.Value → Option Network
  | .string s => Network.ofName? s
  | .table _ [(name, v)] => if isVoid v then Network.ofName? name else none
  | _ => none

/-- The keys of the section that says which wallet is meant. -/
def walletKeys : List String :=
  ["purpose", "coin_type", "account", "network", "gap_limit"]

/-- The keys of the section on the log. -/
def loggingKeys : List String :=
  ["level", "format"]

/-- The settings that a table gives. -/
def ofEntries? (es : Toml.Entries) : Option Overrides :=
  match valuesOf? "wallet" walletKeys es, valuesOf? "logging" loggingKeys es with
  | some [purpose, coinType, account, network, gapLimit], some [level, format] => do
    return ⟨← setting? Toml.Value.uint32? purpose, ← setting? Toml.Value.uint32? coinType,
      ← setting? Toml.Value.uint32? account, ← setting? networkOf? network,
      ← setting? Toml.Value.uint32? gapLimit, ← setting? Toml.Value.text? level,
      ← setting? Toml.Value.text? format⟩
  | _, _ => none

/-- The settings that the text of a file gives. -/
def read? (text : String) : Option Overrides :=
  (Toml.read? text).bind ofEntries?

end Overrides

/-! ## Failures -/

/-- Why there are no settings, or none that can be used. -/
inductive SettingsError where
  /-- The file cannot be read, or is no text. -/
  | unreadableFile (name : String)
  /-- The file is no TOML, or has a setting of a wrong type. -/
  | malformedFile
  /-- The purpose is none. -/
  | invalidPurpose (cause : WalletError)
  /-- No address would be searched. -/
  | zeroGapLimit
  /-- The log has no such level. -/
  | unknownLogLevel
  /-- The log has no such format. -/
  | unknownLogFormat
  deriving DecidableEq, Repr

/-- The levels of the log. -/
def logLevels : List String :=
  ["trace", "debug", "info", "warn", "error"]

/-- The formats of the log. -/
def logFormats : List String :=
  ["json", "text"]

namespace SettingsError

/-- The explanation. -/
def message : SettingsError → String
  | .unreadableFile name => "Failed to read config file: " ++ Text.showPath name
  | .malformedFile => "Failed to parse config file as TOML"
  | .invalidPurpose _ => "Invalid wallet purpose in configuration"
  | .zeroGapLimit => "WALLET_GAP_LIMIT must be greater than 0"
  | .unknownLogLevel =>
    "LOG_LEVEL must be one of: [" ++
      String.intercalate ", " (logLevels.map fun l => "\"" ++ l ++ "\"") ++ "]"
  | .unknownLogFormat => "LOG_FORMAT must be 'json' or 'text'"

/-- The explanations of what lies behind it. -/
def causes : SettingsError → List String
  | .invalidPurpose cause => [cause.message]
  | _ => []

end SettingsError

/-! ## The settings in force -/

/-- What is found under the name of a settings file. -/
inductive FileState where
  | missing
  | unreadable
  | content (bytes : Bytes)

/-- A settings file. -/
structure SettingsFile where
  /-- The name by which it is asked for. -/
  name : String
  state : FileState

/-- The text of a file. -/
def SettingsFile.text? (file : SettingsFile) : Option String :=
  match file.state with
  | .content bytes => ofUtf8? bytes
  | _ => none

namespace Settings

/-- The settings that the environment and the defaults give. -/
def ofEnvironment (env : Environment) : Settings where
  purpose := (env.number? "WALLET_PURPOSE").getD 84
  coinType := (env.number? "WALLET_COIN_TYPE").getD 0
  account := (env.number? "WALLET_ACCOUNT").getD 0
  network := env.network? "WALLET_NETWORK"
  gapLimit := (env.number? "WALLET_GAP_LIMIT").getD 1000
  logLevel := (env.text? "LOG_LEVEL").getD "info"
  logFormat := (env.text? "LOG_FORMAT").getD "text"

/-- The settings with those of a file in their place. -/
def override (s : Settings) (o : Overrides) : Settings where
  purpose := o.purpose.getD s.purpose
  coinType := o.coinType.getD s.coinType
  account := o.account.getD s.account
  network := o.network.or s.network
  gapLimit := o.gapLimit.getD s.gapLimit
  logLevel := o.logLevel.getD s.logLevel
  logFormat := o.logFormat.getD s.logFormat

@[simp] theorem override_empty (s : Settings) : s.override .empty = s := by
  simp [override, Overrides.empty]

/-- The settings of an environment and a file that has to be there. -/
def ofFile (env : Environment) (file : SettingsFile) : Except SettingsError Settings :=
  match file.text? with
  | none => .error (.unreadableFile file.name)
  | some text =>
    match Overrides.read? text with
    | none => .error .malformedFile
    | some o => .ok ((ofEnvironment env).override o)

/-- The settings of an environment and a file, if one is named and there. -/
def load (env : Environment) : Option SettingsFile → Except SettingsError Settings
  | none => .ok (ofEnvironment env)
  | some file =>
    match file.state with
    | .missing => .ok (ofEnvironment env)
    | _ => ofFile env file

/-- The profile that the settings ask for. -/
def profile (s : Settings) : Except SettingsError Profile :=
  match Profile.create s.purpose s.coinType s.account with
  | .error e => .error (.invalidPurpose e)
  | .ok p =>
    match s.network with
    | some network => .ok (p.withNetwork network)
    | none => .ok p

/-- Refuses settings that cannot be used. The level of the log may be in any letter case. -/
def validate (s : Settings) : Except SettingsError Unit := do
  let _ ← s.profile
  if s.gapLimit = 0 then throw .zeroGapLimit
  if Text.toLower s.logLevel ∉ logLevels then throw .unknownLogLevel
  if s.logFormat ∉ logFormats then throw .unknownLogFormat

end Settings

end SeedWallet
