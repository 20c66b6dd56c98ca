import Stencil.Call
import Stencil.Context
import Stencil.Template

/-!
# Rendering

A leaf that can be called is called once with the context and its data; what it returns, or the leaf
itself, has to be a text or null. The first leaf that fails decides, and no later one is called.
Conditions are called the same way and count by their truth.
-/

namespace Stencil.Context

/-- The text of one leaf. What a callable returns is neither expanded nor called again. -/
def renderLeaf (h : Host) (c : Context) (leaf : Value) : Action String := do
  match ← leaf.resolve h [.context c, c.data] with
  | .null => pure ""
  | .str s => pure s
  | v => throw (.notText leaf v)

/-- The text of several leaves; no leaf and a single leaf are the frequent cases. Only several
leaves are iterated over. -/
def renderLeaves (h : Host) (c : Context) : List Value → Action String
  | [] => pure ""
  | [leaf] => c.renderLeaf h leaf
  | leaves => do
    let texts ← (leaves.mapM (c.renderLeaf h)).iterated
    pure (String.join texts)

/-- Renders templates one after the other. -/
def render (h : Host) (c : Context) (templates : List Value) : Action String :=
  c.renderLeaves h (Template.flatten templates)

/-- Whether a condition holds; the result of a callable one is not called again. -/
def holds (h : Host) (c : Context) (condition : Value) : Action Bool := do
  let result ← condition.resolve h [.context c, c.data]
  pure result.truthy

/-- Renders templates if a condition holds. -/
def renderIf (h : Host) (c : Context) (condition : Value) (templates : List Value) :
    Action String := do
  if ← c.holds h condition then c.render h templates else pure ""

/-- Renders one of two templates, as a condition decides. -/
def renderIfElse (h : Host) (c : Context) (condition yes no : Value) : Action String := do
  if ← c.holds h condition then c.render h [yes] else c.render h [no]

end Stencil.Context

namespace Stencil

/-- Renders templates against data in a root context of its own. -/
def applyData (h : Host) (data template : Value) (templates : List Value) : Action String := do
  let id ← Action.freshId
  (Context.ofData id data).render h (template :: templates)

end Stencil
