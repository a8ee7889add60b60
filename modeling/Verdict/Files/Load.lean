import Verdict.Bindings.Yaml
import Verdict.Files.Basic
import Verdict.RuleSet.Yaml

/-!
Rule sets and bindings from files. The content of a file is an option: none stands for a file that
cannot be read as text.
-/

namespace Verdict

def RuleSet.ofContent? : Option String → Except Failure RuleSet
  | none => .error .unreadable
  | some text => do
    let definition ← RuleSet.Definition.ofYaml? text
    RuleSet.compile definition

def Bindings.ofContent? (path : String) : Option String → Except Failure Bindings
  | none => .error .unreadable
  | some text =>
    match Path.extension? path with
    | some "json" => Bindings.ofJson? text
    | some "yaml" => Bindings.ofYaml? text
    | some "yml" => Bindings.ofYaml? text
    | _ => .error (.unsupportedFormat path)

def isRuleSetName (name : String) : Bool :=
  match Path.extension? name with
  | some extension => extension == "yaml" || extension == "yml"
  | none => false

/-- The rule sets in the files of a directory, in the order of their names. A file that holds none
is passed over. -/
def RuleSet.ofEntries (entries : List (String × Option String)) : List RuleSet :=
  let wanted := entries.filter fun entry => isRuleSetName entry.1
  let sorted := wanted.mergeSort fun left right => decide (left.1 ≤ right.1)
  sorted.filterMap fun entry => (RuleSet.ofContent? entry.2).toOption

namespace Files

def ruleSet? (files : Files) (path : String) : Except Failure RuleSet :=
  RuleSet.ofContent? (files.text? path)

def bindings? (files : Files) (path : String) : Except Failure Bindings :=
  Bindings.ofContent? path (files.text? path)

def ruleSets? (files : Files) (path : String) : Except Failure (List RuleSet) :=
  match files.names? path with
  | none => .error .unreadable
  | some names =>
    .ok (RuleSet.ofEntries (names.map fun name => (name, files.text? (path ++ "/" ++ name))))

end Files

end Verdict
