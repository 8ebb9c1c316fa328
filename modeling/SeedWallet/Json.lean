import SeedWallet.Hex
import SeedWallet.Text.Decimal

/-!
# JSON values

Records are exchanged as JSON. A value keeps the order of its members and repeated names, so that
a reader can say what it makes of them.

- `Json`: a value. A natural number stands for itself; any other number keeps its spelling. A string
  is `none` when an escape in it is half of a surrogate pair: it is well-formed JSON but no text.
- `Json.compact j`: the value on one line without blanks.
- `Json.pretty j`: the value over several lines, two blanks to a level.
- `Json.fields? names j`: the values of a record's fields.
-/

namespace SeedWallet

/-- A JSON value. -/
inductive Json where
  | null
  | bool (b : Bool)
  | natural (n : Nat)
  | otherNumber (spelling : String)
  | string (text : Option String)
  | array (elements : List Json)
  | object (members : List (Option String × Json))

namespace Json

/-- A string value that is a text. -/
def ofText (s : String) : Json :=
  .string (some s)

/-- An object with the given members. -/
def record (members : List (String × Json)) : Json :=
  .object (members.map fun m => (some m.1, m.2))

/-! ## Writing -/

/-- How a character stands inside a string: quotes, backslashes and control characters escaped. -/
def escape (c : Char) : List Char :=
  match c with
  | '"' => ['\\', '"']
  | '\\' => ['\\', '\\']
  | '\x08' => ['\\', 'b']
  | '\t' => ['\\', 't']
  | '\n' => ['\\', 'n']
  | '\x0c' => ['\\', 'f']
  | '\r' => ['\\', 'r']
  | c =>
    if c.toNat < 32 then ['\\', 'u', '0', '0', Hex.digit (c.toNat / 16), Hex.digit (c.toNat % 16)]
    else [c]

/-- A text between quotes; what is no text is written as the empty one. -/
def quoted (text : Option String) : List Char :=
  '"' :: ((text.getD "").toList.flatMap escape ++ ['"'])

/-- A value that has no parts. -/
def atom : Json → List Char
  | .bool true => ['t', 'r', 'u', 'e']
  | .bool false => ['f', 'a', 'l', 's', 'e']
  | .natural n => Decimal.digits n
  | .otherNumber spelling => spelling.toList
  | .string text => quoted text
  | _ => ['n', 'u', 'l', 'l']

mutual

/-- The value without blanks. -/
def chars : Json → List Char
  | .array xs => '[' :: (elementChars xs ++ [']'])
  | .object ms => '\x7b' :: (memberChars ms ++ ['\x7d'])
  | j => atom j

/-- Values with commas between them. -/
def elementChars : List Json → List Char
  | [] => []
  | [x] => chars x
  | x :: xs => chars x ++ ',' :: elementChars xs

/-- Members with commas between them. -/
def memberChars : List (Option String × Json) → List Char
  | [] => []
  | [m] => quoted m.1 ++ ':' :: chars m.2
  | m :: ms => quoted m.1 ++ ':' :: (chars m.2 ++ ',' :: memberChars ms)

end

/-- The value on one line. -/
def compact (j : Json) : String :=
  String.ofList (chars j)

/-- A new line, indented to a level. -/
def newLine (level : Nat) : List Char :=
  '\n' :: List.replicate (2 * level) ' '

mutual

/-- The value over several lines, standing at a level. -/
def prettyChars (level : Nat) : Json → List Char
  | .array [] => ['[', ']']
  | .object [] => ['\x7b', '\x7d']
  | .array xs => '[' :: (prettyElements (level + 1) xs ++ newLine level ++ [']'])
  | .object ms => '\x7b' :: (prettyMembers (level + 1) ms ++ newLine level ++ ['\x7d'])
  | j => atom j

/-- Values on lines of their own. -/
def prettyElements (level : Nat) : List Json → List Char
  | [] => []
  | [x] => newLine level ++ prettyChars level x
  | x :: xs => newLine level ++ prettyChars level x ++ ',' :: prettyElements level xs

/-- Members on lines of their own. -/
def prettyMembers (level : Nat) : List (Option String × Json) → List Char
  | [] => []
  | [m] => newLine level ++ quoted m.1 ++ ':' :: ' ' :: prettyChars level m.2
  | m :: ms =>
    newLine level ++ quoted m.1 ++ ':' :: ' ' :: prettyChars level m.2 ++
      ',' :: prettyMembers level ms

end

/-- The value over several lines. -/
def pretty (j : Json) : String :=
  String.ofList (prettyChars 0 j)

/-! ## Records -/

/-- The value of the member of that name, the first one if there are several. -/
def member? (name : String) (members : List (Option String × Json)) : Option Json :=
  (members.find? fun m => m.1 == some name).map Prod.snd

/-- How often a name occurs among the members. -/
def occurrences (name : String) (members : List (Option String × Json)) : Nat :=
  members.countP fun m => m.1 == some name

/-- The values of the fields of a record, in the order of `names`. An object may leave fields out
and may have members that are no fields, but names a field once at most and has only names that are
texts; an array gives a value for each field. -/
def fields? (names : List String) : Json → Option (List (Option Json))
  | .object ms =>
    if (ms.all fun m => m.1.isSome) && (names.all fun n => occurrences n ms ≤ 1) then
      some (names.map fun n => member? n ms)
    else none
  | .array xs => if xs.length = names.length then some (xs.map some) else none
  | _ => none

/-- A natural number below `limit`. -/
def naturalBelow? (limit : Nat) : Json → Option Nat
  | .natural n => if n < limit then some n else none
  | _ => none

/-- A byte. -/
def uint8? (j : Json) : Option UInt8 :=
  (j.naturalBelow? (2 ^ 8)).map UInt8.ofNat

/-- A 32-bit number. -/
def uint32? (j : Json) : Option UInt32 :=
  (j.naturalBelow? (2 ^ 32)).map UInt32.ofNat

/-- A 64-bit number. -/
def uint64? (j : Json) : Option UInt64 :=
  (j.naturalBelow? (2 ^ 64)).map UInt64.ofNat

/-- A text. -/
def text? : Json → Option String
  | .string s => s
  | _ => none

/-- A truth value. -/
def bool? : Json → Option Bool
  | .bool b => some b
  | _ => none

/-- The name of a constant: a string, or an object whose one member has the name and the value
null. -/
def constant? : Json → Option String
  | .string s => s
  | .object [(name, .null)] => name
  | _ => none

end Json

end SeedWallet
