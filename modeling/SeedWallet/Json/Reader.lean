import SeedWallet.Json

/-!
# Reading JSON

Each reader takes characters off the front and returns what it read with what is left.

- `Json.read? text`: the value that the whole text spells; blanks may surround it.

Values nest, and a reader that calls itself for the parts of a value is given a bound on how often
it may do so. Every second step takes a character, so twice the length of the text is never reached.
-/

namespace SeedWallet.Json

/-- Blank, tab, line feed and carriage return may stand between the parts of a value. -/
def isBlank (c : Char) : Bool :=
  c == ' ' || c == '\t' || c == '\n' || c == '\r'

/-- What is left after leading blanks. -/
def skipBlanks (cs : List Char) : List Char :=
  cs.dropWhile isBlank

/-! ## Strings -/

/-- A part of a string: a character that stands for itself, or the number of an escape. -/
inductive Piece where
  | char (c : Char)
  | unit (n : Nat)
  deriving DecidableEq, Repr

/-- The number of four hexadecimal digits. -/
def hexUnit? (a b c d : Char) : Option Nat := do
  let a ← Hex.value? a.toNat
  let b ← Hex.value? b.toNat
  let c ← Hex.value? c.toNat
  let d ← Hex.value? d.toNat
  return ((a * 16 + b) * 16 + c) * 16 + d

/-- The character that a letter after a backslash stands for. -/
def unescape? : Char → Option Char
  | '"' => some '"'
  | '\\' => some '\\'
  | '/' => some '/'
  | 'b' => some '\x08'
  | 'f' => some '\x0c'
  | 'n' => some '\n'
  | 'r' => some '\r'
  | 't' => some '\t'
  | _ => none

/-- The parts of a string up to its closing quote. A control character must be escaped. -/
def readPieces : List Char → Option (List Piece × List Char)
  | [] => none
  | '"' :: rest => some ([], rest)
  | '\\' :: 'u' :: a :: b :: c :: d :: rest =>
    match hexUnit? a b c d with
    | some n => (readPieces rest).map fun r => (.unit n :: r.1, r.2)
    | none => none
  | '\\' :: e :: rest =>
    match unescape? e with
    | some c => (readPieces rest).map fun r => (.char c :: r.1, r.2)
    | none => none
  | c :: rest =>
    if c.toNat < 32 then none else (readPieces rest).map fun r => (.char c :: r.1, r.2)

/-- The text that the parts spell: two escapes that are the halves of a surrogate pair make one
character, and a half without its other half makes none. -/
def joinPieces : List Piece → Option (List Char)
  | [] => some []
  | .char c :: ps => (joinPieces ps).map (c :: ·)
  | .unit h :: .unit l :: ps =>
    if 0xd800 ≤ h ∧ h < 0xdc00 then
      if 0xdc00 ≤ l ∧ l < 0xe000 then
        (joinPieces ps).map (Char.ofNat (0x10000 + (h - 0xd800) * 1024 + (l - 0xdc00)) :: ·)
      else none
    else if 0xdc00 ≤ h ∧ h < 0xe000 then none
    else (joinPieces (.unit l :: ps)).map (Char.ofNat h :: ·)
  | .unit n :: ps =>
    if 0xd800 ≤ n ∧ n < 0xe000 then none else (joinPieces ps).map (Char.ofNat n :: ·)

/-- A string after its opening quote. -/
def readText (cs : List Char) : Option (Option String × List Char) :=
  (readPieces cs).map fun r => ((joinPieces r.1).map String.ofList, r.2)

/-! ## Numbers -/

/-- The digits at the front and what follows them. -/
def spanDigits (cs : List Char) : List Char × List Char :=
  (cs.takeWhile Char.isDigit, cs.dropWhile Char.isDigit)

/-- The whole part: a lone zero, or digits that do not begin with one. -/
def readWhole (cs : List Char) : Option (List Char × List Char) :=
  match cs with
  | '0' :: rest =>
    match rest with
    | c :: _ => if c.isDigit then none else some (['0'], rest)
    | [] => some (['0'], [])
  | cs =>
    match spanDigits cs with
    | ([], _) => none
    | r => some r

/-- The fraction, if a point follows, with its point. -/
def readFraction (cs : List Char) : Option (List Char × List Char) :=
  match cs with
  | '.' :: rest =>
    match spanDigits rest with
    | ([], _) => none
    | (ds, rest) => some ('.' :: ds, rest)
  | cs => some ([], cs)

/-- The exponent, if one follows, with its letter and sign. -/
def readExponent (cs : List Char) : Option (List Char × List Char) :=
  match cs with
  | e :: rest =>
    if e = 'e' ∨ e = 'E' then
      let (sign, rest) := match rest with
        | '+' :: r => (['+'], r)
        | '-' :: r => (['-'], r)
        | r => ([], r)
      match spanDigits rest with
      | ([], _) => none
      | (ds, rest) => some (e :: sign ++ ds, rest)
    else some ([], cs)
  | [] => some ([], [])

/-- A number. It is natural when it has neither sign nor fraction nor exponent. -/
def readNumber (cs : List Char) : Option (Json × List Char) := do
  let (sign, cs) := match cs with
    | '-' :: r => (['-'], r)
    | r => ([], r)
  let (whole, cs) ← readWhole cs
  let (fraction, cs) ← readFraction cs
  let (exponent, cs) ← readExponent cs
  if sign ++ fraction ++ exponent = [] then
    return (.natural (Nat.ofDigitChars 10 whole 0), cs)
  else
    return (.otherNumber (String.ofList (sign ++ whole ++ fraction ++ exponent)), cs)

/-! ## Values -/

mutual

/-- A value. -/
def readValue : Nat → List Char → Option (Json × List Char)
  | 0, _ => none
  | bound + 1, cs =>
    match skipBlanks cs with
    | 'n' :: 'u' :: 'l' :: 'l' :: rest => some (.null, rest)
    | 't' :: 'r' :: 'u' :: 'e' :: rest => some (.bool true, rest)
    | 'f' :: 'a' :: 'l' :: 's' :: 'e' :: rest => some (.bool false, rest)
    | '"' :: rest => (readText rest).map fun r => (.string r.1, r.2)
    | '[' :: rest =>
      match skipBlanks rest with
      | ']' :: rest => some (.array [], rest)
      | _ => (readElements bound rest).map fun r => (.array r.1, r.2)
    | '\x7b' :: rest =>
      match skipBlanks rest with
      | '\x7d' :: rest => some (.object [], rest)
      | _ => (readMembers bound rest).map fun r => (.object r.1, r.2)
    | cs => readNumber cs

/-- Values up to the closing bracket. -/
def readElements : Nat → List Char → Option (List Json × List Char)
  | 0, _ => none
  | bound + 1, cs =>
    match readValue bound cs with
    | none => none
    | some (x, cs) =>
      match skipBlanks cs with
      | ']' :: rest => some ([x], rest)
      | ',' :: rest => (readElements bound rest).map fun r => (x :: r.1, r.2)
      | _ => none

/-- Members up to the closing brace. -/
def readMembers : Nat → List Char → Option (List (Option String × Json) × List Char)
  | 0, _ => none
  | bound + 1, cs =>
    match skipBlanks cs with
    | '"' :: rest =>
      match readText rest with
      | none => none
      | some (name, cs) =>
        match skipBlanks cs with
        | ':' :: rest =>
          match readValue bound rest with
          | none => none
          | some (x, cs) =>
            match skipBlanks cs with
            | '\x7d' :: rest => some ([(name, x)], rest)
            | ',' :: rest => (readMembers bound rest).map fun r => ((name, x) :: r.1, r.2)
            | _ => none
        | _ => none
    | _ => none

end

/-- The value that a whole text spells. -/
def read? (text : String) : Option Json :=
  let cs := text.toList
  match readValue (2 * cs.length + 2) cs with
  | some (j, rest) => if skipBlanks rest = [] then some j else none
  | none => none

end SeedWallet.Json
