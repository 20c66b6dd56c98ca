import Stencil.Call
import Stencil.Context

/-!
# Rebinding data

Rebinding derives a chain of contexts, one for each selector. A selector that can be called gives
the new data from the data of the step before; any other is the new data.
-/

namespace Stencil.Context

/-- The context that one selector leads to. -/
def rebindOnce (h : Host) (c : Context) (selector : Value) : Action Context := do
  let data ← selector.resolve h [c.data]
  let id ← Action.freshId
  pure (c.derive id data)

/-- The context that a sequence of selectors leads to. -/
def rebind (h : Host) (c : Context) (selectors : List Value) : Action Context :=
  selectors.foldlM (rebindOnce h) c

end Stencil.Context
