import Stencil.Action
import Stencil.Value.Basic

/-!
# Calls

A call binds its arguments before the function runs, so a call that does not bind has no effect.
-/

namespace Stencil

namespace Closure

/-- The fault of a call with `k` arguments, if there is one. What a function takes whose parameters
cannot be read is up to the host. -/
def bindError? (h : Host) (f : Closure) (k : Nat) : Option BindError :=
  match f.signature with
  | none => (h.refuses? f k).map .refused
  | some ps => Signature.bindError? ps k

/-- Calls a function. -/
def call (h : Host) (f : Closure) (arguments : List Value) : Action Value :=
  match f.bindError? h arguments.length with
  | some cause => throw (.unbound cause)
  | none => h.run f arguments

end Closure

namespace Value

/-- Whether a call with `k` arguments binds. -/
def accepts (h : Host) (v : Value) (k : Nat) : Bool :=
  match v with
  | .function f => (f.bindError? h k).isNone
  | .applied _ f bound => (f.bindError? h (bound.length + k)).isNone
  | _ => false

/-- Calls a value; arguments bound for good come first. -/
def call (h : Host) (callee : Value) (arguments : List Value) : Action Value :=
  match callee with
  | .function f => f.call h arguments
  | .applied _ f bound => f.call h (bound ++ arguments)
  | v => throw (.notCallable v)

/-- What a leaf, a condition or a selector comes to: what it returns if it can be called, and itself
if not. What a callable returns is not called again. -/
def resolve (h : Host) (v : Value) (arguments : List Value) : Action Value :=
  if v.isCallable then v.call h arguments else pure v

/-- Calls a callback with the argument list of a shape. -/
def callShaped (h : Host) (callback : Value) (shape : Shape) (context index name data : Value) :
    Action Value :=
  callback.call h (shape.arguments context index name data)

/-- What cannot be called fails without effect, whatever the arguments. -/
theorem call_of_not_isCallable (h : Host) {v : Value} (hv : v.isCallable = false)
    (arguments : List Value) : v.call h arguments = throw (.notCallable v) := by
  cases v <;> simp_all [isCallable, call]

end Value

end Stencil
