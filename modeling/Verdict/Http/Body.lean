import Verdict.Bindings.Json

/-!
Bodies of evaluation requests. A body is a JSON object with the wanted members, or an array of their
values in order.
-/

namespace Verdict.Http

structure Draft where
  expression : Option String
  bindings : Option Bindings

namespace Draft

open Verdict.Json (Reader)

def empty : Draft :=
  { expression := none, bindings := none }

def bindingsReader : Reader Bindings :=
  Bindings.jsonTable (Json.maxDepth - 2)

def readExpression (draft : Draft) : Reader Draft :=
  Reader.string.map fun expression => { draft with expression := some expression }

def readBindings (draft : Draft) : Reader Draft :=
  bindingsReader.map fun bindings => { draft with bindings := some bindings }

def readOnce (occurred : Bool) (reader : Reader Draft) : Reader Draft :=
  if occurred then Reader.fail fun _ => .unfit else (Reader.char ':').andThen fun _ => reader

def member (wantsExpression : Bool) (draft : Draft) : Reader Draft :=
  (Reader.name .kept).andThen fun name =>
    if wantsExpression && name == "expression" then
      readOnce draft.expression.isSome draft.readExpression
    else if name == "bindings" then
      readOnce draft.bindings.isSome draft.readBindings
    else
      (Reader.char ':').andThen fun _ => Reader.skipped.map fun _ => draft

def item (wantsExpression : Bool) (draft : Draft) : Reader Draft :=
  if wantsExpression && draft.expression.isNone then draft.readExpression
  else if draft.bindings.isNone then draft.readBindings
  else Reader.fail fun _ => .malformed

def reader (wantsExpression : Bool) : Reader Draft :=
  Reader.peek fun first =>
    if first = some '{' then
      (Reader.char '{').andThen fun _ => Reader.series '}' (member wantsExpression) empty
    else if first = some '[' then
      (Reader.char '[').andThen fun _ => Reader.series ']' (item wantsExpression) empty
    else
      Reader.unfit

end Draft

structure Evaluation where
  expression : String
  bindings : Bindings

def Draft.evaluation? (draft : Draft) : Except Json.Fault Evaluation :=
  match draft.expression with
  | some expression => .ok { expression, bindings := draft.bindings.getD Bindings.empty }
  | none => .error .unfit

def Evaluation.ofBody? (body : String) : Except Json.Fault Evaluation :=
  ((Draft.reader true).convert Draft.evaluation?).whole body

def bindingsOfBody? (body : String) : Except Json.Fault Bindings :=
  ((Draft.reader false).map fun draft => draft.bindings.getD Bindings.empty).whole body

end Verdict.Http
