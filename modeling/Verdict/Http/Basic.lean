import Verdict.Http.Body
import Verdict.Http.MediaType
import Verdict.Http.Route
import Verdict.Registry

/-!
The evaluation service over HTTP, as a function from a registry and a request to a response.
-/

namespace Verdict.Http

structure Request where
  method : String
  target : String
  body : String
  contentType : Option String

structure Response where
  status : Nat
  body : Option Json

namespace Response

def bare (status : Nat) : Response :=
  { status, body := none }

def json (status : Nat) (body : Json) : Response :=
  { status, body := some body }

end Response

def maxExpressionLength : Nat := 16 * 1024

def errorMembers (fault : RuleError) : List (String × Json) :=
  [("error", .string fault.message), ("kind", .string fault.kind.name)]

def evaluateExpression (evaluation : Evaluation) : Response :=
  let length := evaluation.expression.utf8ByteSize
  if length > maxExpressionLength then
    let failure := Failure.expressionTooLong length maxExpressionLength
    .json 413 (.object [("error", .string failure.message)])
  else
    match evaluate evaluation.bindings evaluation.expression with
    | .ok result => .json 200 (.object [("result", .boolean result)])
    | .error fault => .json 422 (.object (errorMembers fault))

def outcomeJson (outcome : RuleSet.Outcome) : Json :=
  match outcome.verdict with
  | .ok result => .object [("rule", .string outcome.rule), ("result", .boolean result)]
  | .error fault => .object (("rule", .string outcome.rule) :: errorMembers fault)

def matchedJson (outcomes : List RuleSet.Outcome) : Json :=
  match RuleSet.matched outcomes with
  | .ok (some rule) => .string rule
  | _ => .null

def evaluateRuleSet (registry : Registry) (name : String) (bindings : Bindings) : Response :=
  match registry.get? name with
  | none => .json 404 (.object [("error", .string (Failure.ruleSetNotFound name).message)])
  | some set =>
    let outcomes := set.evaluate bindings
    .json 200 <| .object
      [("ruleset", .string name), ("results", .array (outcomes.map outcomeJson)),
        ("matched", matchedJson outcomes)]

def health : Response :=
  .json 200 (.object [("status", .string "ok")])

def listRuleSets (registry : Registry) : Response :=
  .json 200 (.array (registry.names.map .string))

def readable (request : Request) (response : Response) : Response :=
  if request.method = "GET" then response
  else if request.method = "HEAD" then .bare response.status
  else .bare 405

def faultStatus : Json.Fault → Nat
  | .malformed => 400
  | .unfit => 422

def maxBodyLength : Nat := 2 * 1024 * 1024

def withBody {α : Type} (request : Request) (read : String → Except Json.Fault α)
    (respond : α → Response) : Response :=
  if !request.contentType.any MediaType.isJson then
    .bare 415
  else if request.body.utf8ByteSize > maxBodyLength then
    .bare 413
  else
    match read request.body with
    | .ok content => respond content
    | .error fault => .bare (faultStatus fault)

def postable (request : Request) (respond : Unit → Response) : Response :=
  if request.method = "POST" then respond () else .bare 405

def dispatch (registry : Registry) (request : Request) : Route → Response
  | .health => readable request health
  | .ruleSets => readable request (listRuleSets registry)
  | .evaluate => postable request fun _ =>
    withBody request Evaluation.ofBody? evaluateExpression
  | .ruleSet segment => postable request fun _ =>
    match decodeSegment? segment with
    | none => .bare 400
    | some name => withBody request bindingsOfBody? (evaluateRuleSet registry name)

/-- Requests for the allowed methods are answered for every target, known or not. -/
def respond (registry : Registry) (request : Request) : Response :=
  if request.method = "OPTIONS" then
    .bare 200
  else
    match Route.ofTarget? request.target with
    | none => .bare 404
    | some route => dispatch registry request route

end Verdict.Http
