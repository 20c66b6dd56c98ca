import Stencil.Failure
import Stencil.Script.Expr

/-!
# Declared operations

Some operations take their operands by a declared parameter list, as functions do. Whether the
number of operands fits is read off the list: an excess is reported before a lack, and a lack names
every parameter that stays empty. Whether an operation on contexts got a context comes first.
-/

namespace Stencil

namespace Parameter

/-- A parameter that needs an operand. -/
def required (name : String) : Parameter :=
  { name, kind := .positional, hasDefault := false }

/-- A parameter that may stay empty. -/
def optional (name : String) : Parameter :=
  { name, kind := .positional, hasDefault := true }

/-- A parameter for all operands that are left. -/
def remaining (name : String) : Parameter :=
  { name, kind := .variadic, hasDefault := false }

end Parameter

/-- The parameter list of an operation. -/
structure Declaration where
  /-- The name that messages show. -/
  name : String
  /-- The parameters. -/
  parameters : Signature
  /-- The number of leading parameters that are filled without an operand. -/
  implicit : Nat

namespace Declaration

/-- An operation all of whose parameters take operands. -/
def ofOperands (name : String) (parameters : Signature) : Declaration :=
  { name, parameters, implicit := 0 }

/-- What is wrong with a number of operands. -/
def fault? (d : Declaration) (count : Nat) : Option Failure :=
  let given := d.implicit + count
  if d.parameters.capacity < given && !d.parameters.isVariadic then
    some (.surplusOperands d.name d.parameters.requiredCount d.parameters.capacity given)
  else
    match d.parameters.unfilled given with
    | [] => none
    | names => some (.missingOperands d.name names)

end Declaration

namespace Operation

/-- The declaration of an operation that has one. The context of an operation on contexts is the
first of its operands. -/
def declaration? : Operation → Option Declaration
  | .newContext =>
    some
      { name := "Context.__init__"
        parameters :=
          [.required "context", .required "data", .optional "parent_context", .optional "index",
            .optional "name"]
        implicit := 1 }
  | .renderIf =>
    some (.ofOperands "Context.if_"
      [.required "context", .required "condition", .remaining "templates"])
  | .renderIfElse =>
    some (.ofOperands "Context.if_else"
      [.required "context", .required "condition", .required "then_template",
        .required "else_template"])
  | .rebind =>
    some (.ofOperands "Context.with_"
      [.required "context", .required "selector", .remaining "selectors"])
  | .applyData =>
    some (.ofOperands "apply_data"
      [.required "data", .required "template", .remaining "templates"])
  | .invokeCallback =>
    some (.ofOperands "invoke_callback"
      [.required "callback", .required "shape", .required "context", .required "index",
        .required "name", .required "data"])
  | .isTemplateFunction => some (.ofOperands "is_template_function" [.required "value"])
  | .isConditionFunction => some (.ofOperands "is_condition_function" [.required "value"])
  | .isSelectorFunction => some (.ofOperands "is_selector_function" [.required "value"])
  | .isTemplateSequence => some (.ofOperands "is_template_sequence" [.required "value"])
  | .arity => some (.ofOperands "positional_arity" [.required "callback"])
  | _ => none

/-- Whether the first operand has to be a context. -/
def isOnContext : Operation → Bool
  | .render | .renderIf | .renderIfElse | .join | .joinSequence | .joinMapping | .rebind
  | .setAttribute | .deleteAttribute => true
  | _ => false

/-- What is wrong with an operand that has to be a context. The parent of a new context may also be
null. -/
def contextFault? : Operation → List Value → Option Failure
  | .newContext, _ :: parent :: _ =>
    if parent.isNull || parent.isContext then none else some .notContext
  | operation, operands =>
    if operation.isOnContext then
      match operands with
      | [] => some .badOperands
      | subject :: _ => if subject.isContext then none else some .notContext
    else none

/-- What is wrong with operands before an operation starts. -/
def fault? (operation : Operation) (operands : List Value) : Option Failure :=
  (operation.contextFault? operands).or
    (operation.declaration?.bind fun d => d.fault? operands.length)

end Operation

end Stencil
