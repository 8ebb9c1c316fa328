import SeedWallet.Settings
import SeedWallet.Wallet

/-!
# The address report

The program reports the first addresses of the wallet whose phrase is in the environment. Its arguments
are texts here: one that is none ends it where the count is looked for, before it prints anything. How a
file `.env` is read is left open, but not what is done with the variables that are found in it.
The log is left out: it is set up once, which can fail only when that has been done before.

- `Report`: the profile, the verification key and equally many addresses of both chains.
- `Report.count`: how many addresses of a chain are asked for.
- `Report.ofWallet`: the report on a wallet; it holds all addresses, or there is none.
- `Report.create`: the report that arguments, environment and settings file ask for.
- `Report.Surroundings`: what the program finds besides its arguments.
- `Report.run`: what the program prints, and how it ends.
- `ReportError`: why there is no report.
-/

namespace SeedWallet

/-- Why there is no report. -/
inductive ReportError where
  /-- The settings cannot be used. -/
  | settings (e : SettingsError)
  /-- The flag that announces a count ends the arguments. -/
  | missingCount
  /-- What the flag announces is no count. -/
  | invalidCount (text : String) (fault : Decimal.Fault)
  /-- What the variable holds is no count. -/
  | invalidCountVariable (text : String) (fault : Decimal.Fault)
  /-- There is no phrase. -/
  | missingPhrase (fault : Environment.Fault)
  /-- There is no wallet of the phrase. -/
  | unopenedWallet (cause : WalletError)
  /-- A key or an address cannot be derived. -/
  | underived (e : WalletError)
  deriving DecidableEq, Repr

namespace ReportError

/-- The explanation. -/
def message : ReportError → String
  | .settings e => e.message
  | .missingCount => "--count requires a value"
  | .invalidCount text _ => "Invalid --count value: " ++ text
  | .invalidCountVariable text _ => "Invalid ADDRESS_COUNT: " ++ text
  | .missingPhrase _ => "WALLET_WORDS must be set"
  | .unopenedWallet _ => "Failed to open wallet"
  | .underived e => e.message

/-- The explanations of what lies behind it. -/
def causes : ReportError → List String
  | .settings e => e.causes
  | .missingCount => []
  | .invalidCount _ fault => [fault.message]
  | .invalidCountVariable _ fault => [fault.message]
  | .missingPhrase fault => [fault.message]
  | .unopenedWallet cause => [cause.message]
  | .underived _ => []

/-- The explanations as the program prints them. -/
def text (e : ReportError) : String :=
  "Error: " ++ e.message ++
    match e.causes with
    | [] => ""
    | causes => "\n\nCaused by:" ++ String.join (causes.map fun c => "\n    " ++ c)

end ReportError

/-- The first addresses of a wallet. -/
structure Report where
  profile : Profile
  verificationKey : String
  receive : List AddressRecord
  change : List AddressRecord
  deriving DecidableEq, Repr

namespace Report

/-- How many addresses of a chain are reported unless another number is asked for. -/
def defaultCount : UInt32 := 5

/-- The argument after the first flag that announces a count, if there is such a flag. -/
def countArgument? : List String → Option (Option String)
  | [] => none
  | arg :: args => if arg = "--count" then some args.head? else countArgument? args

/-- How many addresses of a chain are asked for, by an argument or else by a variable. A variable that has
no text is not asked why. -/
def count (args : List String) (env : Environment) : Except ReportError UInt32 :=
  match countArgument? args with
  | some none => .error .missingCount
  | some (some text) => (Decimal.readUInt32 text).mapError (.invalidCount text)
  | none =>
    match env.text? "ADDRESS_COUNT" with
    | some text => (Decimal.readUInt32 text).mapError (.invalidCountVariable text)
    | none => .ok defaultCount

/-- The addresses at `count` indices from `index` on. -/
def addressesFrom (derive : UInt32 → Result AddressRecord) :
    Nat → Nat → Result (List AddressRecord)
  | 0, _ => .ok []
  | count + 1, index => do
    let first ← derive (UInt32.ofNat index)
    let others ← addressesFrom derive count (index + 1)
    return first :: others

/-- The report on a wallet. -/
def ofWallet (w : Wallet) (count : UInt32) : Result Report := do
  let verificationKey ← w.verificationKey
  let receive ← addressesFrom w.receive count.toNat 0
  let change ← addressesFrom w.change count.toNat 0
  return ⟨w.profile, verificationKey, receive, change⟩

/-- The wallet of the phrase in the environment. -/
def openWallet (env : Environment) (settings : Settings) : Except ReportError Wallet := do
  match env.read "WALLET_WORDS" with
  | .error fault => throw (.missingPhrase fault)
  | .ok phrase =>
    let profile ← settings.profile.mapError .settings
    (Wallet.ofPhrase phrase profile).mapError .unopenedWallet

/-- The report that arguments, environment and settings file ask for. -/
def create (args : List String) (env : Environment) (file : Option SettingsFile) :
    Except ReportError Report := do
  let settings ← (Settings.load env file).mapError .settings
  settings.validate.mapError .settings
  let count ← count args env
  let wallet ← openWallet env settings
  (ofWallet wallet count).mapError .underived

/-- The report as a record. -/
def toJson (r : Report) : Json :=
  .record [("coin_profile", r.profile.toJson), ("verification_key", .ofText r.verificationKey),
    ("receive", .array (r.receive.map AddressRecord.toJson)),
    ("change", .array (r.change.map AddressRecord.toJson))]

/-- What a run of the program leaves behind. -/
structure Printout where
  /-- What is printed as the answer. -/
  answer : String
  /-- What is printed as the reason of a failure. -/
  complaint : String
  exitCode : UInt32
  deriving DecidableEq, Repr

/-- A report is printed when all of it is there. -/
def printout : Except ReportError Report → Printout
  | .ok r => ⟨r.toJson.pretty ++ "\n", "", 0⟩
  | .error e => ⟨"", e.text ++ "\n", 1⟩

/-- What a run of the program finds. -/
structure Surroundings where
  /-- The variables that are set for it. -/
  environment : Environment
  /-- The variables of a file `.env`, up to where that cannot be read. -/
  dotEnv : List (String × String)
  /-- What is found under the name of a file. -/
  files : String → FileState

namespace Surroundings

/-- The environment with the variables of the file `.env`. -/
def inForce (s : Surroundings) : Environment :=
  s.environment.extend s.dotEnv

/-- The settings file that a variable names. -/
def settingsFile? (s : Surroundings) : Option SettingsFile :=
  (s.inForce.text? "CONFIG_PATH").map fun name => ⟨name, s.files name⟩

end Surroundings

/-- A run of the program with these arguments. -/
def run (args : List String) (s : Surroundings) : Printout :=
  printout (create args s.inForce s.settingsFile?)

end Report

end SeedWallet
