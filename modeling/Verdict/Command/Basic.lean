/-!
Commands and how they are written: the name of a command, then options with values.
-/

namespace Verdict

structure BindingSource where
  file : Option String
  arguments : List String
deriving DecidableEq, Repr

inductive Command where
  | evaluate (expression : String) (source : BindingSource)
  | compile (expression : String)
  | check (rules : String) (source : BindingSource)
deriving DecidableEq, Repr

namespace Command

inductive Flag where
  | expression
  | bindings
  | variable
  | rules
deriving DecidableEq, Repr

def Flag.long : Flag → String
  | .expression => "expression"
  | .bindings => "bindings"
  | .variable => "var"
  | .rules => "rules"

def Flag.short? : Flag → Option Char
  | .expression => some 'e'
  | .bindings => some 'b'
  | .variable => none
  | .rules => some 'r'

def Flag.repeats : Flag → Bool
  | .variable => true
  | _ => false

def Flag.isPath : Flag → Bool
  | .bindings => true
  | .rules => true
  | _ => false

def flagOf? (allowed : List Flag) (argument : String) : Option (Flag × Option String) :=
  match argument.toList with
  | '-' :: '-' :: text =>
    let name := String.ofList (text.takeWhile (· != '='))
    (allowed.find? fun flag => flag.long == name).map fun flag =>
      match text.dropWhile (· != '=') with
      | [] => (flag, none)
      | _ :: value => (flag, some (String.ofList value))
  | '-' :: letter :: text =>
    (allowed.find? fun flag => flag.short? == some letter).map fun flag =>
      match text with
      | [] => (flag, none)
      | '=' :: value => (flag, some (String.ofList value))
      | value => (flag, some (String.ofList value))
  | _ => none

/-- A value of its own must not look like an option; a lone dash does not. -/
def isValue (argument : String) : Bool :=
  !argument.startsWith "-" || argument == "-"

def options? (allowed : List Flag) : List String → Option (List (Flag × String))
  | [] => some []
  | ["--"] => some []
  | argument :: rest =>
    match flagOf? allowed argument with
    | none => none
    | some (flag, some value) => (options? allowed rest).map ((flag, value) :: ·)
    | some (flag, none) =>
      match rest with
      | [] => none
      | value :: rest =>
        if isValue value then (options? allowed rest).map ((flag, value) :: ·) else none

def valuesOf (flag : Flag) (options : List (Flag × String)) : List String :=
  options.filterMap fun option => if option.1 = flag then some option.2 else none

def isProper (options : List (Flag × String)) : Bool :=
  options.all fun option =>
    (option.1.repeats || (valuesOf option.1 options).length == 1) &&
      (!option.1.isPath || !option.2.isEmpty)

def source (options : List (Flag × String)) : BindingSource :=
  { file := (valuesOf .bindings options).head?
    arguments := valuesOf .variable options }

def proper? (allowed : List Flag) (arguments : List String) : Option (List (Flag × String)) :=
  (options? allowed arguments).filter isProper

def ofArguments? : List String → Option Command
  | "eval" :: arguments => do
    let options ← proper? [.expression, .bindings, .variable] arguments
    let expression ← (valuesOf .expression options).head?
    return .evaluate expression (source options)
  | "compile" :: arguments => do
    let options ← proper? [.expression] arguments
    let expression ← (valuesOf .expression options).head?
    return .compile expression
  | "check" :: arguments => do
    let options ← proper? [.rules, .bindings, .variable] arguments
    let rules ← (valuesOf .rules options).head?
    return .check rules (source options)
  | _ => none

def paths : Command → List String
  | .evaluate _ source => source.file.toList
  | .compile _ => []
  | .check rules source => rules :: source.file.toList

end Command

end Verdict
