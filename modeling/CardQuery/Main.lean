import CardQuery.Command.Basic

/-!
# The program

Reads what a command has to be supplied with, and writes what it writes.
-/

namespace CardQuery

namespace Program

/-- The reason why a file cannot be read. -/
def reason : IO.Error → String
  | .noFileOrDirectory _ _ _ => "No such file or directory (os error 2)"
  | .permissionDenied _ _ _ => "Permission denied (os error 13)"
  | .inappropriateType _ _ _ => "Is a directory (os error 21)"
  | e => toString e

/-- Reads a file. -/
def readText (path : String) : IO (Except String String) := do
  try
    return .ok (← IO.FS.readFile path)
  catch e =>
    return .error (reason e)

/-- What a command has to be supplied with. -/
def supplies (c : Command) : IO Command.Supplies := do
  let input ← if c.readsInput then (← IO.getStdin).readToEnd else pure ""
  let text ← match c.file? with
    | some path => readText path
    | none => pure (.ok "")
  return ⟨input, fun _ => text⟩

/-- Carries a command line out. -/
def run (args : List String) : IO Command.Ending := do
  match Command.ofArguments args with
  | .error h => return .ofHalt h
  | .ok c => return c.ending (← supplies c)

end Program

end CardQuery

/-- Writes how a command line ends, and ends so. -/
def main (args : List String) : IO UInt32 := do
  let ending ← CardQuery.Program.run args
  IO.print ending.stdout
  IO.eprint ending.stderr
  return ending.code.toUInt32
