import Stencil.Script.Eval

/-!
# Sessions

A session evaluates named steps in order. Each step has a log of its own; its value, or null if it
failed, is bound to its name for later steps, and one-shot iterators live on.
-/

namespace Stencil

/-- What a step shows: its value or failure, and its log. -/
structure Outcome where
  /-- The value or the failure. -/
  result : Except Failure Value
  /-- What was written to the log, also before a failure. -/
  log : List String

namespace Session

/-- How deep calls may nest. -/
def callDepth : Nat := 20000

/-- What comes of a result when it is shown. -/
def shown : Except Failure Value → Except Failure Value
  | .ok v => if v.isShowable then .ok v else .error .unwritable
  | .error e => .error e.settled

/-- Evaluates an expression with an empty log. -/
def evaluate (e : Expr) (s : State) : Outcome × State :=
  match e.eval (Host.ofDepth callDepth) [] { s with log := #[] } with
  | .ok v s => ({ result := shown (.ok v), log := s.log.toList }, s)
  | .error e s => ({ result := shown (.error e), log := s.log.toList }, s)

/-- Binds the outcome of a step to its name. -/
def bindOutcome (name : String) (o : Outcome) (s : State) : State :=
  let value := match o.result with
    | .ok v => v
    | .error _ => .null
  { s with bindings := (name, value) :: s.bindings }

/-- The outcomes of steps from a given state. -/
def runFrom : State → List (String × Expr) → List Outcome
  | _, [] => []
  | s, (name, e) :: steps =>
    let (outcome, s) := evaluate e s
    outcome :: runFrom (bindOutcome name outcome s) steps

/-- The outcomes of steps in a fresh session. -/
def run (steps : List (String × Expr)) : List Outcome :=
  runFrom default steps

end Session

end Stencil
