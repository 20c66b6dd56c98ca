import Stencil.Join
import Stencil.Rebind
import Stencil.Script.Compute
import Stencil.Script.Declaration

/-!
# Operations

Rendering, joining and rebinding, calling a callback, writing to the log and making what has an
identity have effects; all other operations are computed from their operands. An operation starts
only when its operands are without fault as a whole.
-/

namespace Stencil

/-- Makes a context, given its parts as scripts do. -/
def makeContext (data parent index name : Value) : Action Value := do
  let id ← Action.freshId
  pure (.context (Context.new id data parent.toContext? index name))

/-- Makes a callable with leading arguments bound for good. -/
def makeApplied (callee : Value) (leading : List Value) : Action Value := do
  let id ← Action.freshId
  match callee.bindLeading? id leading with
  | some v => pure v
  | none => throw .notBindable

namespace Operation

/-- The result of an operation whose operands are without fault as a whole. -/
def run (h : Host) : Operation → List Value → Action Value
  | .log, [v] => do
    Action.writeLog (← Action.ofExcept v.written)
    pure .null
  | .bind, [] => throw .nothingToBind
  | .bind, callee :: leading => makeApplied callee leading
  | .newContext, [data] => makeContext data .null (.int 0) (.str "0")
  | .newContext, [data, parent] => makeContext data parent (.int 0) (.str "0")
  | .newContext, [data, parent, index] => makeContext data parent index (.str "0")
  | .newContext, [data, parent, index, name] => makeContext data parent index name
  | .render, .context c :: templates => .str <$> c.render h templates
  | .renderIf, .context c :: condition :: templates => .str <$> c.renderIf h condition templates
  | .renderIfElse, [.context c, condition, yes, no] => .str <$> c.renderIfElse h condition yes no
  | .join, [.context c, items, separator, callback, opening, closing, shape] =>
    .str <$> c.join h items { separator, callback, opening, closing, shape }
  | .joinSequence, [.context c, items, separator, callback, opening, closing, shape] =>
    .str <$> c.joinSequence h items { separator, callback, opening, closing, shape }
  | .joinMapping, [.context c, items, separator, callback, opening, closing, shape] =>
    .str <$> c.joinMapping h items { separator, callback, opening, closing, shape }
  | .rebind, .context c :: selectors => .context <$> c.rebind h selectors
  | .applyData, data :: template :: templates =>
    .str <$> Stencil.applyData h data template templates
  | .invokeCallback, [callback, shape, context, index, name, data] =>
    callback.callShaped h shape.toShape context index name data
  | operation, operands => Action.ofExcept (operation.compute operands)

/-- Applies an operation to its operands. -/
def apply (h : Host) (operation : Operation) (operands : List Value) : Action Value :=
  match operation.fault? operands with
  | some e => throw e
  | none => operation.run h operands

end Operation

end Stencil
