import Verdict.Command.Basic
import Verdict.Files.Load
import Verdict.Bindings.Argument
import Verdict.Text.Quoted

/-!
What a command writes and how it ends, as a function of its arguments and the files that it reads.

Standard output is complete. Of standard error only the first line is: where a file cannot be
loaded, further lines give the cause, in the words of the failure, of the operating system or of the
reader of the format, and they are left out.
-/

namespace Verdict

structure Report where
  lines : List String
  complaint : Option String

namespace Report

def success (lines : List String) : Report :=
  { lines, complaint := none }

def failure (lines : List String) (complaint : String) : Report :=
  { lines, complaint := some complaint }

def output (report : Report) : String :=
  String.join (report.lines.map (· ++ "\n"))

end Report

namespace Command

/-- A failure to load a file is reported by the path. Its cause, which would stand on the lines
behind that, is dropped. -/
def loading {α : Type} (what path : String) (result : Except Failure α) : Except String α :=
  match result with
  | .ok value => .ok value
  | .error _ => .error ("Failed to load " ++ what ++ " from " ++ Text.quoted path)

def loadBindings (read : String → Option String) (source : BindingSource) :
    Except String Bindings := do
  let bindings ← match source.file with
    | some path => loading "bindings" path (Bindings.ofContent? path (read path))
    | none => .ok Bindings.empty
  match bindings.insertArguments source.arguments with
  | .ok bindings => .ok bindings
  | .error failure => .error failure.message

def truthText (truth : Bool) : String :=
  if truth then "true" else "false"

def reportEvaluation (expression : String) (bindings : Bindings) : Report :=
  match Verdict.evaluate bindings expression with
  | .ok result => .success [truthText result]
  | .error fault => .failure [] fault.message

def reportTree (expression : String) : Report :=
  match Verdict.compile expression with
  | .ok expr =>
    .success [expr.render, "variables: " ++ ", ".intercalate expr.names]
  | .error fault => .failure [] fault.message

def outcomeLine (outcome : RuleSet.Outcome) : String :=
  match outcome.verdict with
  | .ok result => "  " ++ outcome.rule ++ ": " ++ truthText result
  | .error fault => "  " ++ outcome.rule ++ ": error: " ++ fault.message

def headLines (set : RuleSet) : List String :=
  ("Rule set: " ++ set.name) ::
    if set.description.isEmpty then [] else ["  " ++ set.description]

def reportCheck (set : RuleSet) (bindings : Bindings) : Report :=
  let outcomes := set.evaluate bindings
  let lines := headLines set ++ outcomes.map outcomeLine
  match RuleSet.matched outcomes with
  | .ok (some rule) => .success (lines ++ ["Matched: " ++ rule])
  | .ok none => .success (lines ++ ["Matched: none"])
  | .error fault => .failure lines fault.message

def ofLoaded {α : Type} (loaded : Except String α) (report : α → Report) : Report :=
  match loaded with
  | .ok value => report value
  | .error complaint => .failure [] complaint

def run (read : String → Option String) : Command → Report
  | .evaluate expression source =>
    ofLoaded (loadBindings read source) (reportEvaluation expression)
  | .compile expression => reportTree expression
  | .check rules source =>
    ofLoaded (loading "rule set" rules (RuleSet.ofContent? (read rules))) fun set =>
      ofLoaded (loadBindings read source) (reportCheck set)

end Command

structure Exit where
  code : Nat
  output : String
  errors : String

def usage : String :=
  "usage: eval -e EXPRESSION [-b FILE] [--var NAME=VALUE]...\n" ++
    "       compile -e EXPRESSION\n" ++
    "       check -r FILE [-b FILE] [--var NAME=VALUE]...\n"

def Exit.ofArguments (read : String → Option String) (arguments : List String) : Exit :=
  match Command.ofArguments? arguments with
  | none => { code := 2, output := "", errors := usage }
  | some command =>
    let report := command.run read
    match report.complaint with
    | none => { code := 0, output := report.output, errors := "" }
    | some complaint =>
      { code := 1, output := report.output, errors := "Error: " ++ complaint ++ "\n" }

end Verdict
