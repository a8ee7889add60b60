import Verdict.Http.Basic
import Verdict.RuleSet.Yaml

/-!
Steps of a service and their answers. Only new handles and successful registrations change anything.
-/

namespace Verdict.Service

inductive Step where
  | addRegistry
  | shareRegistry (handle : Nat)
  | register (handle : Nat) (definition : RuleSet.Definition)
  | registerYaml (handle : Nat) (text : String)
  | names (handle : Nat)
  | get (handle : Nat) (name : String)
  | evaluate (handle : Nat) (name : String) (bindings : Bindings)
  | http (handle : Nat) (request : Http.Request)

inductive Answer where
  | handle (number : Nat)
  | names (names : List String)
  | failure (failure : Failure)
  | set (found : Option RuleSet)
  | run (outcomes : List RuleSet.Outcome) (matched firstMatch : Except RuleError (Option String))
  | response (response : Http.Response)

def defineAnswer (service : Service) (handle : Nat)
    (definition : Except Failure RuleSet.Definition) : Service × Answer :=
  match definition >>= service.define handle with
  | .ok next => (next, .names (next.registry handle).names)
  | .error failure => (service, .failure failure)

def evaluateAnswer (registry : Registry) (name : String) (bindings : Bindings) : Answer :=
  match registry.get? name with
  | none => .set none
  | some set =>
    let outcomes := set.evaluate bindings
    .run outcomes (RuleSet.matched outcomes) (set.firstMatch bindings)

def perform (service : Service) : Step → Service × Answer
  | .addRegistry => (service.addRegistry, .handle service.handles.length)
  | .shareRegistry handle => (service.shareRegistry handle, .handle service.handles.length)
  | .register handle definition => service.defineAnswer handle (.ok definition)
  | .registerYaml handle text => service.defineAnswer handle (RuleSet.Definition.ofYaml? text)
  | .names handle => (service, .names (service.registry handle).names)
  | .get handle name => (service, .set ((service.registry handle).get? name))
  | .evaluate handle name bindings =>
    (service, evaluateAnswer (service.registry handle) name bindings)
  | .http handle request => (service, .response (Http.respond (service.registry handle) request))

def after (service : Service) (steps : List Step) : Service :=
  steps.foldl (fun service step => (service.perform step).1) service

end Verdict.Service
