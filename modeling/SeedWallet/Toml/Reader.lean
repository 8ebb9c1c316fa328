import SeedWallet.Toml.Moment
import SeedWallet.Toml.Number
import SeedWallet.Toml.Quoted
import SeedWallet.Toml.Table

/-!
# Reading TOML

- `Toml.readValue nesting`: a value in which arrays and braces nest to that depth at most.
- `Toml.readKey parts`: a key with so many parts at most.
- `Toml.readStatements`: the headers and fields of a text, line after line.
- `Toml.read? text`: the table that a whole text spells.

A reader takes characters off the front and returns what it read with what is left. Each turn of a
reader that repeats itself takes a character, so that the length of the text bounds the turns.
-/

namespace SeedWallet.Toml

/-- How many parts a key may have, and how deep values may nest. -/
def depthLimit : Nat := 79

/-! ## Blanks and comments -/

/-- Drops the blanks at the front of a line. -/
def skipSpace (cs : List Char) : List Char :=
  cs.dropWhile isSpace

/-- Drops a comment, up to the end of its line. -/
def skipComment : List Char → List Char
  | '#' :: cs => cs.dropWhile isPlain
  | cs => cs

/-- What follows the end of the line, if only blanks and a comment are left of it. -/
def endLine? (cs : List Char) : Option (List Char) :=
  match skipComment (skipSpace cs) with
  | [] => some []
  | '\n' :: cs => some cs
  | '\r' :: '\n' :: cs => some cs
  | _ => none

/-- Drops blanks, line breaks and comments; the flag says whether a comment is being dropped. -/
def skipGap : Bool → List Char → List Char
  | _, [] => []
  | inComment, c :: cs =>
    if inComment && isPlain c then skipGap true cs
    else if isSpace c || c == '\n' then skipGap false cs
    else if c = '\r' then
      match cs with
      | '\n' :: _ => skipGap false cs
      | _ => c :: cs
    else if c = '#' then skipGap true cs
    else c :: cs

/-! ## Keys -/

/-- Whether a character may stand in a key without quotes. -/
def isBare (c : Char) : Bool :=
  c.isAlphanum || c == '-' || c == '_'

/-- A part of a key. -/
def readPart (cs : List Char) : Option (String × List Char) :=
  match skipSpace cs with
  | '"' :: cs => (readLine '"' 0 cs).map fun r => (String.ofList r.1, r.2)
  | '\'' :: cs => (readLine '\'' 0 cs).map fun r => (String.ofList r.1, r.2)
  | cs =>
    match cs.takeWhile isBare with
    | [] => none
    | name => some (String.ofList name, cs.dropWhile isBare)

/-- A key: its parts between dots. The blanks behind it are dropped. -/
def readKey : Nat → List Char → Option (List String × List Char)
  | 0, _ => none
  | parts + 1, cs =>
    match readPart cs with
    | none => none
    | some (part, cs) =>
      match skipSpace cs with
      | '.' :: cs => (readKey parts cs).map fun r => (part :: r.1, r.2)
      | cs => some ([part], cs)

/-! ## Values -/

/-- Whether a character may stand in a number, a date, a time or a name without quotes. -/
def isWordChar (c : Char) : Bool :=
  c.isAlphanum || c == '+' || c == '-' || c == '_' || c == '.' || c == ':'

/-- The value that a word spells. -/
def ofWord? (word : List Char) : Option Value :=
  if word = ['t', 'r', 'u', 'e'] then some (.bool true)
  else if word = ['f', 'a', 'l', 's', 'e'] then some (.bool false)
  else if isMoment word then some (.moment (String.ofList word))
  else
    match integer? word with
    | some n => some (.integer n)
    | none => if isFloat word then some (.float (String.ofList word)) else none

/-- A value without quotes or brackets. A blank may divide a date from a time. -/
def readWord (cs : List Char) : Option (Value × List Char) :=
  let word := cs.takeWhile isWordChar
  let rest := cs.dropWhile isWordChar
  let alone := (ofWord? word).map (·, rest)
  match rest with
  | ' ' :: more =>
    let time := more.takeWhile isWordChar
    if isDate word && isZonedTime time then
      some (.moment (String.ofList (word ++ ' ' :: time)), more.dropWhile isWordChar)
    else alone
  | _ => alone

/-- The elements of an array up to its bracket; a comma may follow the last one. -/
def readElements (read : List Char → Option (Value × List Char)) :
    Nat → List Char → Option (List Value × List Char)
  | 0, _ => none
  | turns + 1, cs =>
    match skipGap false cs with
    | ']' :: cs => some ([], cs)
    | cs =>
      match read cs with
      | none => none
      | some (x, cs) =>
        match skipGap false cs with
        | ']' :: cs => some ([x], cs)
        | ',' :: cs => (readElements read turns cs).map fun r => (x :: r.1, r.2)
        | _ => none

/-- A key, its equals sign and its value. -/
def readField (read : List Char → Option (Value × List Char)) (cs : List Char) :
    Option (Field × List Char) :=
  match readKey depthLimit cs with
  | some (path, '=' :: cs) => (read (skipSpace cs)).map fun r => (⟨path, r.1⟩, r.2)
  | _ => none

/-- Fields between commas up to the closing brace. -/
def readFields (read : List Char → Option (Value × List Char)) :
    Nat → List Char → Option (List Field × List Char)
  | 0, _ => none
  | turns + 1, cs =>
    match readField read cs with
    | none => none
    | some (f, cs) =>
      match skipSpace cs with
      | '\x7d' :: cs => some ([f], cs)
      | ',' :: cs => (readFields read turns cs).map fun r => (f :: r.1, r.2)
      | _ => none

/-- A table after its opening brace. -/
def readBraces (read : List Char → Option (Value × List Char)) (cs : List Char) :
    Option (Value × List Char) :=
  match skipSpace cs with
  | '\x7d' :: cs => some (.table .braces [], cs)
  | cs =>
    match readFields read (cs.length + 1) cs with
    | none => none
    | some (fs, cs) => (ofFields? fs).map fun es => (.table .braces es, cs)

/-- A value. -/
def readValue : Nat → List Char → Option (Value × List Char)
  | nesting + 1, '[' :: cs =>
    (readElements (readValue nesting) (cs.length + 1) cs).map fun r => (.array r.1, r.2)
  | nesting + 1, '\x7b' :: cs => readBraces (readValue nesting) cs
  | _, cs =>
    match cs with
    | '"' :: _ | '\'' :: _ => (readString? cs).map fun r => (.string r.1, r.2)
    | cs => readWord cs

/-! ## Lines -/

/-- What a line says. -/
inductive Statement where
  | heading (h : Heading)
  | field (f : Field)

/-- A header after its first bracket. -/
def readHeading : List Char → Option (Heading × List Char)
  | '[' :: cs =>
    match readKey depthLimit cs with
    | some (path, ']' :: ']' :: cs) => some (.element path, cs)
    | _ => none
  | cs =>
    match readKey depthLimit cs with
    | some (path, ']' :: cs) => some (.table path, cs)
    | _ => none

/-- The statement at the front. -/
def readStatement : List Char → Option (Statement × List Char)
  | '[' :: cs => (readHeading cs).map fun r => (.heading r.1, r.2)
  | cs => (readField (readValue depthLimit) cs).map fun r => (.field r.1, r.2)

/-- The statements of all lines. -/
def readStatements : Nat → List Char → Option (List Statement)
  | 0, _ => none
  | turns + 1, cs =>
    match skipSpace cs with
    | [] => some []
    | cs =>
      match endLine? cs with
      | some cs => readStatements turns cs
      | none => do
        let (s, cs) ← readStatement cs
        return s :: (← readStatements turns (← endLine? cs))

/-- The fields above the first header, and the sections. -/
def sections : List Statement → List Field × List Section
  | [] => ([], [])
  | .field f :: ss => (f :: (sections ss).1, (sections ss).2)
  | .heading h :: ss => ([], ⟨h, (sections ss).1⟩ :: (sections ss).2)

/-- Drops the mark that may stand at the beginning of a file. -/
def dropMark : List Char → List Char
  | '\ufeff' :: cs => cs
  | cs => cs

/-- The table that a whole text spells. -/
def read? (text : String) : Option Entries := do
  let cs := dropMark text.toList
  let (fields, sections) := sections (← readStatements (cs.length + 1) cs)
  sections.foldlM addSection (← ofFields? fields)

end SeedWallet.Toml
