import SeedWallet.Toml.Value

/-!
# Building tables

Keys may be paths, and a path makes the tables that it passes through. What may be added to a table
depends on its origin: one between braces is complete, and one with a header of its own takes nothing
more from dotted keys. A key has one value only.

- `Toml.within via change path`: changes the table at the end of a path.
- `Toml.addField`: a key and its value; `Toml.ofFields?`: the table that fields make up.
- `Toml.Section`, `Toml.addSection`: a header with the fields below it.
-/

namespace SeedWallet.Toml

/-- A key, as the path that its dots divide it into, and its value. -/
structure Field where
  path : List String
  value : Value

/-- Changes the table at the end of a path that starts in a table of the origin `here`. Tables that
are missing on the way are made, with the origin `via`; of repeated tables the last one is meant. -/
def within (via : Origin) (change : Origin → Entries → Option Entries) :
    List String → Origin → Entries → Option Entries
  | [], here, es => change here es
  | key :: path, _, es =>
    match find? key es with
    | none => (within via change path via []).map fun t => put key (.table via t) es
    | some (.table origin t) =>
      if origin = .braces ∨ (via = .dottedKey ∧ origin = .header) then none
      else (within via change path origin t).map fun t => put key (.table origin t) es
    | some (.tables ts) =>
      match ts.getLast? with
      | none => none
      | some t =>
        (within via change path .header t).map fun t => put key (.tables (ts.dropLast ++ [t])) es
    | some _ => none

/-- Adds a field to a table. The value of a dotted key goes into a table that dotted keys made. -/
def addField (es : Entries) (f : Field) : Option Entries :=
  match f.path.getLast? with
  | none => none
  | some key =>
    within .dottedKey (fun here t =>
      if (f.path.dropLast ≠ [] ∧ here ≠ .dottedKey) ∨ (find? key t).isSome then none
      else some (put key f.value t)) f.path.dropLast .header es

/-- Adds fields in order. -/
def addFields (es : Entries) (fs : List Field) : Option Entries :=
  fs.foldlM addField es

/-- The table that fields make up. -/
def ofFields? (fs : List Field) : Option Entries :=
  addFields [] fs

/-- What a header announces. -/
inductive Heading where
  /-- The table at the end of the path. -/
  | table (path : List String)
  /-- Another one of the repeated tables at the end of the path. -/
  | element (path : List String)

/-- A header with the fields below it. -/
structure Section where
  heading : Heading
  fields : List Field

/-- Adds the table of a header to the document. A header may complete a table that was only passed
through so far, and no other. -/
def addSection (es : Entries) (s : Section) : Option Entries :=
  match s.heading with
  | .table path =>
    match path.getLast? with
    | none => none
    | some key =>
      within .passage (fun _ t =>
        match find? key t with
        | none => (ofFields? s.fields).map fun u => put key (.table .header u) t
        | some (.table .passage u) =>
          (addFields u s.fields).map fun u => put key (.table .header u) t
        | some _ => none) path.dropLast .header es
  | .element path =>
    match path.getLast? with
    | none => none
    | some key =>
      within .passage (fun _ t =>
        match find? key t with
        | none => (ofFields? s.fields).map fun u => put key (.tables [u]) t
        | some (.tables us) => (ofFields? s.fields).map fun u => put key (.tables (us ++ [u])) t
        | some _ => none) path.dropLast .header es

end SeedWallet.Toml
