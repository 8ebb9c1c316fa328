import SeedWallet.Network
import SeedWallet.Text.Decimal
import SeedWallet.Text.Utf8
import SeedWallet.Text.Visible

/-!
# The environment

A variable holds bytes, and its readers want a text. Bytes that are none are a value of their own kind:
where a reader gives no reason, they are the same to it as a variable that is not set.

- `Environment`: the bytes of the variables that are set.
- `Environment.read`: the text of a variable, or why there is none; `Environment.text?`: just the text.
- `Environment.number?`, `Environment.network?`: what the text of a variable stands for.
- `Environment.extend`: the environment with further variables, which do not count for those that have a
  text already.
- `Environment.ofEntries`: the environment that a system hands to a program.
-/

namespace SeedWallet

/-- The environment: the bytes of the variables that are set. -/
abbrev Environment := String → Option Bytes

namespace Environment

/-- Why a variable has no text. -/
inductive Fault where
  /-- It is not set. -/
  | unset
  /-- It is set to these bytes, which are no text. -/
  | foreign (bytes : Bytes)
  deriving DecidableEq, Repr

/-- The explanation. -/
def Fault.message : Fault → String
  | .unset => "environment variable not found"
  | .foreign bytes => "environment variable was not valid unicode: " ++ Text.showBytes bytes

/-- The text of a variable. -/
def read (env : Environment) (name : String) : Except Fault String :=
  match env name with
  | none => .error .unset
  | some bytes =>
    match ofUtf8? bytes with
    | none => .error (.foreign bytes)
    | some text => .ok text

/-- The text of a variable, if it has one. -/
def text? (env : Environment) (name : String) : Option String :=
  (env name).bind ofUtf8?

/-- The number in a variable, if there is one. -/
def number? (env : Environment) (name : String) : Option UInt32 :=
  (env.text? name).bind fun s => (Decimal.readUInt32 s).toOption

/-- The network that a variable names, if it names one. -/
def network? (env : Environment) (name : String) : Option Network :=
  (env.text? name).bind fun s => (Network.parse s).toOption

/-- The environment with a variable set to a text. -/
def set (env : Environment) (name text : String) : Environment :=
  fun other => if other = name then some (utf8 text) else env other

/-- The environment with the variables of a list. Each is set as it comes, unless there is a text under
its name by then. -/
def extend (env : Environment) : List (String × String) → Environment
  | [] => env
  | (name, text) :: others =>
    if (env.text? name).isSome then env.extend others else (env.set name text).extend others

/-- The environment of a list of entries, each a name, an equals sign and a value. Of the entries with one
name the first one counts. -/
def ofEntries (entries : List Bytes) : Environment :=
  fun name => entries.findSome? fun entry => (utf8 name ++ utf8 "=").isPrefixOf? entry

/-! ## Texts of variables -/

section

variable {env : Environment} {name other text : String}

/-- A variable that has a text is read. -/
theorem read_eq_ok_iff : env.read name = .ok text ↔ env.text? name = some text := by
  cases hset : env name with
  | none => simp [read, text?, hset]
  | some bytes => cases htext : ofUtf8? bytes <;> simp [read, text?, hset, htext]

@[simp] theorem text?_set_self (env : Environment) (name text : String) :
    (env.set name text).text? name = some text := by
  rw [text?, set, if_pos rfl, Option.bind_some, ofUtf8?_utf8]

theorem text?_set (h : other ≠ name) (text : String) :
    (env.set name text).text? other = env.text? other := by
  rw [text?, text?, set, if_neg h]

/-- A variable has the text that it has in the environment, else the first one that is listed. -/
theorem text?_extend (env : Environment) (listed : List (String × String)) (name : String) :
    (env.extend listed).text? name = (env.text? name).or (listed.lookup name) := by
  induction listed generalizing env with
  | nil => rw [extend, List.lookup_nil, Option.or_none]
  | cons entry others ih =>
    obtain ⟨first, text⟩ := entry
    rw [extend, List.lookup_cons]
    by_cases hname : name = first
    · subst hname
      cases hset : env.text? name with
      | some old => simp [ih, hset]
      | none => simp [ih]
    · rw [beq_false_of_ne hname]
      split
      · rw [ih]
      · rw [ih, text?_set hname]

end

end Environment

end SeedWallet
