import SeedWallet.Hex

/-!
# TOML strings

Two quotes are in use: between double quotes a backslash begins an escape, between single ones it
stands for itself. Three quotes begin a string that may hold line breaks.

- `Toml.readLine quote`: a string up to its closing quote, on one line.
- `Toml.readLines quote`: a string up to its three closing quotes.
- `Toml.readString?`: a string of any kind.

The readers look ahead when they meet an escape, and count the characters that it takes up; these are
then left out one by one.
-/

namespace SeedWallet.Toml

/-- Whether a character may stand for itself: of the control characters only the tab may. -/
def isPlain (c : Char) : Bool :=
  c == '\t' || (decide (32 ≤ c.toNat) && c.toNat != 127)

/-- Whether a character is a blank within a line. -/
def isSpace (c : Char) : Bool :=
  c == ' ' || c == '\t'

/-- The character that a letter after a backslash stands for. -/
def escaped? : Char → Option Char
  | 'b' => some '\x08'
  | 't' => some '\t'
  | 'n' => some '\n'
  | 'f' => some '\x0c'
  | 'r' => some '\r'
  | '"' => some '"'
  | '\\' => some '\\'
  | _ => none

/-- The character whose code is the number that the first `count` characters spell. -/
def codePoint? (count : Nat) (cs : List Char) : Option Char := do
  let values ← (cs.take count).mapM fun c => Hex.value? c.toNat
  let n := values.foldl (fun n v => 16 * n + v) 0
  if values.length = count ∧ n.isValidChar then some (Char.ofNat n) else none

/-- The character that an escape stands for, and how many characters follow its backslash. -/
def escape? : List Char → Option (Char × Nat)
  | 'u' :: cs => (codePoint? 4 cs).map (·, 5)
  | 'U' :: cs => (codePoint? 8 cs).map (·, 9)
  | c :: _ => (escaped? c).map (·, 1)
  | [] => none

/-- The text up to the closing quote, and what follows. -/
def readLine (quote : Char) : Nat → List Char → Option (List Char × List Char)
  | _, [] => none
  | skip + 1, _ :: cs => readLine quote skip cs
  | 0, c :: cs =>
    if c = quote then some ([], cs)
    else if c = '\\' ∧ quote = '"' then
      match escape? cs with
      | some (x, skip) => (readLine quote skip cs).map fun r => (x :: r.1, r.2)
      | none => none
    else if isPlain c then (readLine quote 0 cs).map fun r => (c :: r.1, r.2)
    else none

/-- How many blanks and line breaks stand at the front. -/
def countGap : List Char → Nat
  | '\r' :: '\n' :: cs => countGap cs + 2
  | c :: cs => if isSpace c || c == '\n' then countGap cs + 1 else 0
  | [] => 0

/-- Whether nothing but blanks is left of the line. -/
def endsLine (cs : List Char) : Bool :=
  match cs.dropWhile isSpace with
  | '\n' :: _ | '\r' :: '\n' :: _ => true
  | _ => false

/-- The text up to three closing quotes, and what follows. One or two quotes may stand before the
closing ones. A line break is a single character however it is made, and a backslash at the end of a
line removes the break with the blanks and breaks behind it. -/
def readLines (quote : Char) : Nat → List Char → Option (List Char × List Char)
  | _, [] => none
  | skip + 1, _ :: cs => readLines quote skip cs
  | 0, c :: cs =>
    let keep := (readLines quote 0 cs).map fun r => (c :: r.1, r.2)
    if c = quote then
      let more := (cs.takeWhile (· == quote)).length
      let kept := min (more - 2) 2
      if 2 ≤ more then some (List.replicate kept quote, cs.drop (2 + kept)) else keep
    else if c = '\\' ∧ quote = '"' then
      if endsLine cs then readLines quote (countGap cs) cs
      else
        match escape? cs with
        | some (x, skip) => (readLines quote skip cs).map fun r => (x :: r.1, r.2)
        | none => none
    else if c = '\r' then
      match cs with
      | '\n' :: _ => readLines quote 0 cs
      | _ => none
    else if c = '\n' || isPlain c then keep
    else none

/-- Leaves out a line break at the front. -/
def dropBreak : List Char → List Char
  | '\n' :: cs => cs
  | '\r' :: '\n' :: cs => cs
  | cs => cs

/-- A string, and what follows it. -/
def readString? : List Char → Option (String × List Char)
  | '"' :: '"' :: '"' :: cs => (readLines '"' 0 (dropBreak cs)).map fun r => (String.ofList r.1, r.2)
  | '\'' :: '\'' :: '\'' :: cs =>
    (readLines '\'' 0 (dropBreak cs)).map fun r => (String.ofList r.1, r.2)
  | '"' :: cs => (readLine '"' 0 cs).map fun r => (String.ofList r.1, r.2)
  | '\'' :: cs => (readLine '\'' 0 cs).map fun r => (String.ofList r.1, r.2)
  | _ => none

end SeedWallet.Toml
