import Stencil.Script.Apply

/-!
# Evaluation

Expressions are evaluated by recursion on their structure; what calling a function means is left to
a host. `Host.ofDepth` ties the knot: a host of depth `n + 1` evaluates bodies under the host of
depth `n`, so that calls nest at most so deep.
-/

namespace Stencil

/-- The argument in a place, which is counted from behind where it is negative. -/
def argumentAt? (arguments : List Value) : Int → Option Value
  | .ofNat n => arguments[n]?
  | .negSucc n => arguments.reverse[n]?

/-- The elements that a value stands for among operands; those of a one-shot iterator are asked for
until it is exhausted. -/
def Value.spread (h : Host) : Value → Action (List Value)
  | .list items | .tuple items => pure items
  | .range p => do
    let _ ← Action.ofExcept (p.size >>= storable)
    pure (p.toList.map .int)
  | v => do
    let feed ← Feed.sequence h v
    feed.drain

mutual

/-- The value of an expression, where `scope` holds the argument lists of the function calls around
it, innermost first. -/
def Expr.eval (h : Host) (scope : List (List Value)) : Expr → Action Value
  | .null => pure .null
  | .bool b => pure (.bool b)
  | .int i => pure (.int i)
  | .str s => pure (.str s)
  | .argument index level =>
    match scope[level]?.bind fun arguments => argumentAt? arguments index with
    | some v => pure v
    | none => throw (.noArgument index)
  | .variable name => do
    match (← get).valueOf? name with
    | some v => pure v
    | none => throw (.unknownVariable name)
  | .function name signature body => do
    match signature.mapM Signature.declare with
    | .error cause => throw (.undeclarable cause)
    | .ok signature =>
      let id ← Action.freshId
      pure (.function { id, name, signature, body, scope })
  | .iterator elements => Action.newIterator (elements.map fun body => { body, scope })
  | .dictionary entries => .dict <$> evalEntries h scope entries []
  | .branch condition yes no => do
    if (← condition.eval h scope).truthy then yes.eval h scope else no.eval h scope
  | .apply operation operands => do
    let values ← evalOperands h scope operands
    operation.apply h values

/-- The values that an operand stands for. -/
def Operand.eval (h : Host) (scope : List (List Value)) : Operand → Action (List Value)
  | .one e => do
    let v ← e.eval h scope
    pure [v]
  | .spread e => do
    let v ← e.eval h scope
    v.spread h

/-- The values of operands, evaluated from left to right. -/
def evalOperands (h : Host) (scope : List (List Value)) : List Operand → Action (List Value)
  | [] => pure []
  | operand :: rest => do
    let values ← operand.eval h scope
    let others ← evalOperands h scope rest
    pure (values ++ others)

/-- Writes evaluated entries to a dictionary, one after the other. -/
def evalEntries (h : Host) (scope : List (List Value)) :
    List (Expr × Expr) → Entries → Action Entries
  | [], entries => pure entries
  | (k, v) :: rest, entries => do
    let key ← k.eval h scope
    let value ← v.eval h scope
    match key.unhashablePart? with
    | some part => throw (.unhashable part)
    | none => evalEntries h scope rest (Entries.insert entries key value)

end

/-- The host under which calls nest at most `n` deep. A script's function without parameters takes
any arguments. -/
def Host.ofDepth : Nat → Host
  | 0 =>
    { run := fun _ _ => throw .tooDeep
      force := fun _ => throw .tooDeep
      refuses? := fun _ _ => none }
  | n + 1 =>
    { run := fun f arguments => f.body.eval (ofDepth n) (arguments :: f.scope)
      force := fun suspended => suspended.body.eval (ofDepth n) suspended.scope
      refuses? := fun _ _ => none }

end Stencil
