import SeedWallet.Report

/-!
# The command line

Prints the address report of the wallet in the environment. The variables are taken from where the system
keeps them byte by byte, since not every one has to be a text. No file `.env` is read.
-/

namespace SeedWallet

/-- The entries of a block, each of which ends with a zero. -/
def entriesOf (block : Bytes) : List Bytes :=
  block.foldr (fun b entries =>
    if b = 0 then [] :: entries
    else match entries with
      | [] => [[b]]
      | entry :: entries => (b :: entry) :: entries) []

/-- The environment of the program. -/
def readEnvironment : IO Environment := do
  let block ← IO.FS.readBinFile "/proc/self/environ"
  return .ofEntries (entriesOf block.data.toList)

/-- What is found under the name of a file. -/
def readState (name : String) : IO FileState := do
  let found ← try
      let _ ← IO.FS.realPath name
      pure true
    catch _ => pure false
  if found then
    try
      return .content (← IO.FS.readBinFile name).data.toList
    catch _ => return .unreadable
  else return .missing

/-- What the program finds. Of all files only the one that is asked for is looked at. -/
def readSurroundings : IO Report.Surroundings := do
  let environment ← readEnvironment
  let state ← match environment.text? "CONFIG_PATH" with
    | some name => readState name
    | none => pure .missing
  return ⟨environment, [], fun _ => state⟩

end SeedWallet

/-- Prints the report, or why there is none. -/
def main (args : List String) : IO UInt32 := do
  let printed := SeedWallet.Report.run args (← SeedWallet.readSurroundings)
  IO.print printed.answer
  IO.eprint printed.complaint
  return printed.exitCode
