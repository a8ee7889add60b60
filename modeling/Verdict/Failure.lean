import Verdict.RuleError

/-!
What can go wrong around rule expressions: in rule sets, binding arguments, files and requests.

The wording of the last three failures belongs to the operating system and to the readers of the two
formats. The texts that stand for it here are never shown: a failure to load a file is reported by
its path, and a request with a malformed body by a status.
-/

namespace Verdict

inductive Failure where
  | rule (cause : RuleError)
  | invalidRule (rule : String) (cause : RuleError)
  | duplicateRule (rule : String)
  | ruleSetNotFound (name : String)
  | invalidBinding (reason : String)
  | expressionTooLong (length limit : Nat)
  | unsupportedFormat (path : String)
  /-- A file or directory is missing, of the wrong kind, or not UTF-8. -/
  | unreadable
  | malformedJson
  | malformedYaml
deriving DecidableEq, Repr, Inhabited

def Failure.message : Failure → String
  | .rule cause => cause.message
  | .invalidRule name cause => "Rule '" ++ name ++ "' is invalid: " ++ cause.message
  | .duplicateRule name => "Duplicate rule '" ++ name ++ "'"
  | .ruleSetNotFound name => "Rule set '" ++ name ++ "' not found"
  | .invalidBinding reason => "Invalid binding: " ++ reason
  | .expressionTooLong length limit =>
    "Expression is " ++ length.repr ++ " bytes, limit is " ++ limit.repr
  | .unsupportedFormat path => "Unsupported file format: " ++ path
  | .unreadable => "File cannot be read"
  | .malformedJson => "Malformed JSON table"
  | .malformedYaml => "Malformed YAML document"

end Verdict
