import Verdict.Bindings.Argument
import Verdict.Bindings.Yaml

/-!
Edits of tables of bindings, and runs of edits over two tables.
-/

namespace Verdict.Bindings

inductive Edit where
  | insert (name : String) (value : Value)
  | collect (pairs : List (String × Value))
  | json (text : String)
  | yaml (text : String)
  | argument (text : String)
  | extend (other : Bindings)

def Edit.apply (bindings : Bindings) : Edit → Except Failure Bindings
  | .insert name value => .ok (bindings.insert name value)
  | .collect pairs => .ok (ofList pairs)
  | .json text => ofJson? text
  | .yaml text => ofYaml? text
  | .argument text => bindings.insertArguments [text]
  | .extend other => .ok (bindings.extend other)

structure Pair where
  first : Bindings
  second : Bindings

inductive Side where
  | first
  | second
deriving DecidableEq

namespace Pair

def empty : Pair :=
  { first := Bindings.empty, second := Bindings.empty }

def get (pair : Pair) : Side → Bindings
  | .first => pair.first
  | .second => pair.second

def set (pair : Pair) (side : Side) (bindings : Bindings) : Pair :=
  match side with
  | .first => { pair with first := bindings }
  | .second => { pair with second := bindings }

def edit (pair : Pair) (side : Side) (edit : Edit) : Pair × Option Failure :=
  match edit.apply (pair.get side) with
  | .ok bindings => (pair.set side bindings, none)
  | .error failure => (pair, some failure)

end Pair

inductive Step where
  | edit (side : Side) (edit : Edit)
  | merge (side source : Side)

namespace Pair

def perform (pair : Pair) : Step → Pair × Option Failure
  | .edit side edit => pair.edit side edit
  | .merge side source => pair.edit side (.extend (pair.get source))

def after (steps : List Step) : Pair :=
  steps.foldl (fun pair step => (pair.perform step).1) empty

end Pair

end Verdict.Bindings
