import Verdict.Command.Run

/-!
The command line.
-/

namespace Verdict

def readFile? (path : String) : IO (Option String) := do
  try
    return String.fromUTF8? (← IO.FS.readBinFile path)
  catch _ =>
    return none

def readFiles (arguments : List String) : IO (List (String × Option String)) := do
  match Command.ofArguments? arguments with
  | none => return []
  | some command => command.paths.mapM fun path => do return (path, ← readFile? path)

end Verdict

def main (arguments : List String) : IO UInt32 := do
  let contents ← Verdict.readFiles arguments
  let exit := Verdict.Exit.ofArguments (fun path => (contents.lookup path).join) arguments
  (← IO.getStdout).putStr exit.output
  (← IO.getStderr).putStr exit.errors
  return exit.code.toUInt32
