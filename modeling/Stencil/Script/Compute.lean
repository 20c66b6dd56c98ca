import Stencil.Context
import Stencil.Failure
import Stencil.Template
import Stencil.Value.Arithmetic
import Stencil.Value.Dict

/-!
# Operations without effects

`Operation.compute` gives the meaning of every operation whose result depends on its operands alone:
building, inspecting and comparing values, and reading contexts, shapes and callables.
-/

namespace Stencil

/-- The element in a place that scripts number with integers. -/
def elementAt {α : Type} (items : List α) (i : Int) : Except Failure α :=
  match i with
  | .ofNat n =>
    match items[n]? with
    | some v => .ok v
    | none => .error .indexOutOfRange
  | .negSucc _ => .error .indexOutOfRange

/-- Looks a dictionary up by key, or a list, tuple or text by position. -/
def Value.lookUp (container key : Value) : Except Failure Value :=
  match container, key with
  | .dict entries, key =>
    match key.unhashablePart? with
    | some part => .error (.unhashable part)
    | none =>
      match Entries.get? entries key with
      | some v => .ok v
      | none => .error (.missingKey key)
  | .list items, .int i => elementAt items i
  | .tuple items, .int i => elementAt items i
  | .str s, .int i => (elementAt s.toList i).map fun c => .str (String.singleton c)
  | _, _ => .error .badLookup

/-- The number of elements of a progression, where a machine word counts them. -/
def Progression.size (p : Progression) : Except Failure Nat :=
  if p.length < Failure.wordBound then .ok p.length else .error .uncountable

/-- A number of elements that can be stored. -/
def storable (n : Nat) : Except Failure Nat :=
  if n < Nat.pow 2 34 then .ok n else .error .outOfMemory

/-- The number of elements of a value. -/
def Value.length : Value → Except Failure Nat
  | .str s => .ok s.length
  | .list items => .ok items.length
  | .tuple items => .ok items.length
  | .dict entries => .ok entries.length
  | .bytes content => .ok content.length
  | .range p => p.size
  | v => .error (.unsized v)

/-- The integer that a value stands for. -/
def Value.integer (v : Value) : Except Failure Int :=
  match v.toInt? with
  | some i => .ok i
  | none => .error (.notInteger v)

/-- The natural number that a value stands for, negative integers standing for zero. -/
def Value.natural (v : Value) : Except Failure Nat :=
  v.integer.map Int.toNat

/-- A progression, given its bounds and step as scripts do. -/
def makeRange (start stop step : Value) : Except Failure Value := do
  let start ← start.integer
  let stop ← stop.integer
  let step ← step.integer
  if step == 0 then .error .zeroStep else .ok (.range ⟨start, stop, step⟩)

/-- A value inside `n` one-element lists. -/
def nested : Nat → Value → Value
  | 0, v => v
  | n + 1, v => nested n (.list [v])

/-- A list of equal elements. -/
def Value.repeated (v count : Value) : Except Failure Value :=
  match count.toInt? with
  | some n =>
    if Failure.fitsWord n then (storable n.toNat).map fun n => .list (List.replicate n v)
    else .error .unboundedRepetition
  | none => .error (.notRepetition count)

/-- The list of the first natural numbers. -/
def Value.upto (count : Value) : Except Failure Value := do
  let stop ← count.integer
  let n ← Progression.size ⟨0, stop, 1⟩
  let n ← storable n
  return .list ((List.range n).map fun (i : Nat) => .int i)

/-- A byte string from the text of its digits. -/
def Value.unhex : Value → Except Failure Value
  | .str digits =>
    match Text.unhex digits.toList with
    | .ok content => .ok (.bytes content)
    | .error place => .error (.notHexadecimal place)
  | v => .error (.digitsNotText v)

/-- The text that names an attribute. -/
def Value.attributeName : Value → Except Failure String
  | .str name => .ok name
  | v => .error (.attributeName v)

/-- A field or derived property of a context. -/
def Context.attribute (c : Context) (name : String) : Except Failure Value :=
  match name with
  | "data" => .ok c.data
  | "parent_context" => .ok (c.parent.elim .null .context)
  | "index" => .ok c.index
  | "name" => .ok c.name
  | "depth" => .ok (.int c.depth)
  | "parent" => .ok c.parentData
  | "root" => .ok c.rootData
  | "parents" => .ok (.list c.parents)
  | _ => .error (.missingAttribute (.context c) name)

/-- The name, tag or place of a shape, or another shape by name. -/
def Shape.attribute (s : Shape) (name : String) : Except Failure Value :=
  match name with
  | "name" | "_name_" => .ok (.str s.label)
  | "value" | "_value_" => .ok (.str s.tag)
  | "_sort_order_" => .ok (.int (all.idxOf s))
  | _ =>
    match ofLabel? name with
    | some other => .ok (.shape other)
    | none => .error (.missingAttribute (.shape s) name)

/-- The shape of the given name. -/
def Value.shapeNamed (name : Value) : Except Failure Value :=
  match name.unhashablePart? with
  | some part => .error (.unhashable part)
  | none =>
    match name.toText?.bind Shape.ofLabel? with
    | some s => .ok (.shape s)
    | none => .error (.unknownShape name)

/-- The shape of the given tag; a shape stands for itself. -/
def Value.shapeTagged : Value → Except Failure Value
  | .shape s => .ok (.shape s)
  | tag =>
    match tag.toText?.bind Shape.ofTag? with
    | some s => .ok (.shape s)
    | none => .error (.unknownTag tag)

/-- The result of an operation that has no effect. -/
def Operation.compute : Operation → List Value → Except Failure Value
  | .list, operands => .ok (.list operands)
  | .tuple, operands => .ok (.tuple operands)
  | .bytes, [digits] => digits.unhex
  | .range, [stop] => makeRange (.int 0) stop (.int 1)
  | .range, [start, stop] => makeRange start stop (.int 1)
  | .range, [start, stop, step] => makeRange start stop step
  | .range, bounds => .error (.rangeBounds bounds.length)
  | .repeated, [count, v] => v.repeated count
  | .nest, [count, v] => count.natural.map fun n => nested n v
  | .upto, [count] => count.upto
  | .get, [container, key] => container.lookUp key
  | .getOptional, [.dict entries, key] =>
    match key.unhashablePart? with
    | some part => .error (.unhashable part)
    | none => .ok ((Entries.get? entries key).getD .null)
  | .getOptional, [v, _] => .error (.missingAttribute v "get")
  | .text, [v] => v.written.map .str
  | .concatenate, operands =>
    (operands.mapM Value.written).map fun texts => .str (String.join texts)
  | .typeName, [v] => .ok (.str v.typeName)
  | .negate, [v] => .ok (.bool !v.truthy)
  | .equal, [a, b] => .ok (.bool (a.equals b))
  | .less, [a, b] => (a.less b).map .bool
  | .add, [a, b] => a.add b
  | .modulo, [a, b] => a.modulo b
  | .length, [v] => v.length.map fun n => .int n
  | .last, operands =>
    match operands.getLast? with
    | some v => .ok v
    | none => .error .noLastOperand
  | .fail, [.str kind, message] => .error (.raised kind message)
  | .attribute, [.shape s, name] => do s.attribute (← name.attributeName)
  | .attribute, [.context c, name] => do c.attribute (← name.attributeName)
  | .attribute, [_, _] => .error .notContext
  | .setAttribute, [_, name, _] => do .error (.fieldAssigned (← name.attributeName))
  | .deleteAttribute, [_, name] => do .error (.fieldDeleted (← name.attributeName))
  | .flatten, templates => .ok (.list (Template.flatten templates))
  | .isTemplateFunction, [v] | .isConditionFunction, [v] | .isSelectorFunction, [v] =>
    .ok (.bool v.isCallable)
  | .isTemplateSequence, [v] => .ok (.bool v.isSequence)
  | .arity, [v] => .ok (.int v.arity.code)
  | .detectShape, [v, mapping] =>
    .ok (.shape (v.detectShape (if mapping.truthy then .mapping else .sequence)))
  | .shapeNamed, [name] => name.shapeNamed
  | .shapeTagged, [tag] => tag.shapeTagged
  | .shapes, [] => .ok (.list (Shape.all.map Value.shape))
  | _, _ => .error .badOperands

end Stencil
