import SeedWallet.Arithmetic

/-!
# TOML values

- `Toml.Value`: a value. A number with a fraction or an exponent and a date or time keep their
  spelling, as nothing is computed with them.
- `Toml.Origin`: how a table came about, which decides what may still be added to it.
- `Toml.Entries`: the keys of a table with their values; `find?` looks one up and `put` sets one
  (`find?_put`, `find?_put_of_ne`).
-/

namespace SeedWallet.Toml

/-- How a table came about. -/
inductive Origin where
  /-- It was written out between braces. -/
  | braces
  /-- A header announced it. -/
  | header
  /-- It stands on the way to a table that a header announced. -/
  | passage
  /-- It stands on the way to the value of a dotted key. -/
  | dottedKey
  deriving DecidableEq, Repr

/-- A value. -/
inductive Value where
  | string (text : String)
  | integer (n : Int)
  | float (spelling : String)
  | bool (b : Bool)
  /-- A date, a time of day or both. -/
  | moment (spelling : String)
  | array (elements : List Value)
  | table (origin : Origin) (entries : List (String × Value))
  /-- Tables that repeated headers announced. -/
  | tables (elements : List (List (String × Value)))

/-- The keys of a table with their values. -/
abbrev Entries := List (String × Value)

/-- The value of a key. -/
def find? (key : String) : Entries → Option Value
  | [] => none
  | e :: es => if e.1 = key then some e.2 else find? key es

/-- Gives a key a value, in place of the one that it may have. -/
def put (key : String) (value : Value) : Entries → Entries
  | [] => [(key, value)]
  | e :: es => if e.1 = key then (key, value) :: es else e :: put key value es

@[simp] theorem find?_put (key : String) (value : Value) (es : Entries) :
    find? key (put key value es) = some value := by
  induction es with
  | nil => simp [put, find?]
  | cons e es ih =>
    rw [put]
    split
    · simp [find?]
    · rename_i h; simp [find?, h, ih]

theorem find?_put_of_ne {key other : String} (h : other ≠ key) (value : Value) (es : Entries) :
    find? other (put key value es) = find? other es := by
  induction es with
  | nil => simp [put, find?, h.symm]
  | cons e es ih =>
    rw [put]
    split
    · rename_i he; simp [find?, he, h.symm]
    · simp [find?, ih]

/-- The elements of an array; tables under one repeated header make one up, too. -/
def Value.elements? : Value → Option (List Value)
  | .array xs => some xs
  | .tables ts => some (ts.map (.table .header))
  | _ => none

/-- The text of a string. -/
def Value.text? : Value → Option String
  | .string s => some s
  | _ => none

/-- The 32-bit number that an integer is. -/
def Value.uint32? : Value → Option UInt32
  | .integer n => if 0 ≤ n ∧ n < 2 ^ 32 then some (UInt32.ofNat n.toNat) else none
  | _ => none

end SeedWallet.Toml
