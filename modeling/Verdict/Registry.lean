import Std.Data.ExtTreeMap
import Verdict.RuleSet.Basic

/-!
Registries of compiled rule sets by name, and services in which several handles may share one
registry.
-/

namespace Verdict

structure Registry where
  sets : Std.ExtTreeMap String RuleSet compare

namespace Registry

def empty : Registry :=
  { sets := ∅ }

instance : Inhabited Registry :=
  ⟨empty⟩

def register (registry : Registry) (set : RuleSet) : Registry :=
  { sets := registry.sets.insert set.name set }

def get? (registry : Registry) (name : String) : Option RuleSet :=
  registry.sets[name]?

def names (registry : Registry) : List String :=
  registry.sets.keys

end Registry

/-- Registries, and for every handle the number of the registry that it leads to. -/
structure Service where
  registries : List Registry
  handles : List Nat

namespace Service

def initial : Service :=
  { registries := [Registry.empty], handles := [0] }

def registry (service : Service) (handle : Nat) : Registry :=
  ((service.handles[handle]?).bind (service.registries[·]?)).getD Registry.empty

def addRegistry (service : Service) : Service :=
  { registries := service.registries ++ [Registry.empty]
    handles := service.handles ++ [service.registries.length] }

def shareRegistry (service : Service) (handle : Nat) : Service :=
  match service.handles[handle]? with
  | some number => { service with handles := service.handles ++ [number] }
  | none => service

def register (service : Service) (handle : Nat) (set : RuleSet) : Service :=
  match service.handles[handle]? with
  | some number =>
    { service with registries := service.registries.modify number (·.register set) }
  | none => service

def define (service : Service) (handle : Nat) (definition : RuleSet.Definition) :
    Except Failure Service := do
  let set ← RuleSet.compile definition
  .ok (service.register handle set)

end Service

end Verdict
