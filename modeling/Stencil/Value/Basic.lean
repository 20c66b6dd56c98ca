import Stencil.Progression
import Stencil.Script.Expr
import Stencil.Shape

/-!
# Values

Everything a script computes with and a template renders is a `Value`. Callables are values too: a
`Closure` is a function with the arguments that were in scope where it was made, and a closure may
have leading arguments bound for good. A `Context` is data together with the chain of contexts it
was derived from. Callables, contexts and one-shot iterators have an identity, a number that is
given out once and tells them apart from others made alike.
-/

namespace Stencil

mutual
/-- A value. -/
inductive Value where
  /-- Nothing. -/
  | null
  /-- A truth value. -/
  | bool (b : Bool)
  /-- An integer of any size. -/
  | int (i : Int)
  /-- A text. -/
  | str (s : String)
  /-- A list. -/
  | list (items : List Value)
  /-- A tuple. -/
  | tuple (items : List Value)
  /-- A dictionary in insertion order. -/
  | dict (entries : List (Value × Value))
  /-- A byte string. -/
  | bytes (content : List UInt8)
  /-- An arithmetic progression. -/
  | range (progression : Progression)
  /-- A one-shot iterator; what is left of it is part of the state. -/
  | iterator (id : Nat)
  /-- A function. -/
  | function (f : Closure)
  /-- A function with leading arguments bound for good, which has an identity of its own. -/
  | applied (id : Nat) (f : Closure) (bound : List Value)
  /-- A context. -/
  | context (c : Context)
  /-- A callback shape. -/
  | shape (s : Shape)
/-- A function together with the argument lists in scope where it was made, innermost first. -/
structure Closure where
  /-- The identity. -/
  id : Nat
  /-- The name, which only texts of values show. -/
  name : String
  /-- The parameters, where they can be read. -/
  signature : Option (List Parameter)
  /-- The expression that a call evaluates. -/
  body : Expr
  /-- The argument lists in scope, innermost first. -/
  scope : List (List Value)
/-- Data in scope, with its place in the lineage. -/
structure Context where
  /-- The identity. -/
  id : Nat
  /-- The value currently in scope. -/
  data : Value
  /-- The context this one was derived from; none at the root. -/
  parent : Option Context
  /-- The position within the iteration that made this context. -/
  index : Value
  /-- The label within the parent: a decimal position or the text of a key. -/
  name : Value
  /-- The nesting level, zero at the root. -/
  depth : Nat
end

instance : Inhabited Value := ⟨.null⟩

namespace Value

/-- The short name of a value's type. -/
def typeName : Value → String
  | .null => "NoneType"
  | .bool _ => "bool"
  | .int _ => "int"
  | .str _ => "str"
  | .list _ => "list"
  | .tuple _ => "tuple"
  | .dict _ => "dict"
  | .bytes _ => "bytes"
  | .range _ => "range"
  | .iterator _ => "iterator"
  | .function _ => "function"
  | .applied _ _ _ => "partial"
  | .context _ => "Context"
  | .shape _ => "CallbackShape"

/-- The name of a value's type where an operation is refused; it is the short name but for bound
callables, which are shown with the name of the module that provides them. -/
def qualifiedTypeName : Value → String
  | .applied _ _ _ => "functools.partial"
  | v => v.typeName

/-- Whether a value counts as true. Null, false, zero and whatever is empty count as false. -/
def truthy : Value → Bool
  | .null => false
  | .bool b => b
  | .int i => i != 0
  | .str s => !s.isEmpty
  | .list items => !items.isEmpty
  | .tuple items => !items.isEmpty
  | .dict entries => !entries.isEmpty
  | .bytes content => !content.isEmpty
  | .range p => p.length != 0
  | .iterator _ | .function _ | .applied _ _ _ | .context _ | .shape _ => true

/-- Whether a value can be called. -/
def isCallable : Value → Bool
  | .function _ | .applied _ _ _ => true
  | _ => false

/-- Whether a value is a list or a tuple, which templates expand in place. -/
def isSequence : Value → Bool
  | .list _ | .tuple _ => true
  | _ => false

/-- Whether a value is a byte string. -/
def isBytes : Value → Bool
  | .bytes _ => true
  | _ => false

/-- Whether a value is a context. -/
def isContext : Value → Bool
  | .context _ => true
  | _ => false

/-- Whether a value is null. -/
def isNull : Value → Bool
  | .null => true
  | _ => false

/-- A text, if the value is one. -/
def toText? : Value → Option String
  | .str s => some s
  | _ => none

/-- A context, if the value is one. -/
def toContext? : Value → Option Context
  | .context c => some c
  | _ => none

/-- The integer of a value, truth values counting as zero and one. -/
def toInt? : Value → Option Int
  | .int i => some i
  | .bool b => some (if b then 1 else 0)
  | _ => none

/-- The characters of a text, each as a text of its own. -/
def characters (s : String) : List Value :=
  s.toList.map fun c => .str (String.singleton c)

/-- The elements of a value that is walked by position and has them at hand: those of a container,
the characters of a text, the numbers of a byte string, the keys of a dictionary. -/
def elements? : Value → Option (List Value)
  | .list items => some items
  | .tuple items => some items
  | .str s => some (characters s)
  | .bytes content => some (content.map fun b => .int b.toNat)
  | .dict entries => some (entries.map (·.1))
  | .range p => some (p.toList.map .int)
  | _ => none

/-- The signature of a callable as it stands: that of the function less the bound arguments. It is
none where it cannot be read, and for a value that cannot be called. -/
def signature? : Value → Option Signature
  | .function f => f.signature
  | .applied _ f bound => f.signature.bind fun ps => Signature.drop? ps bound.length
  | _ => none

/-- The arity of a value, unknown where no signature can be read. -/
def arity (v : Value) : Arity :=
  match v.signature? with
  | some ps => Signature.arity ps
  | none => .unknown

/-- The shape for a callback of which none is given. -/
def detectShape (callback : Value) (mode : Mode) : Shape :=
  Shape.detect callback.arity mode

/-- The shape that an explicit choice stands for; what is no shape acts as the bare one. -/
def toShape : Value → Shape
  | .shape s => s
  | _ => .bare

/-- Binds leading arguments for good, under a new identity; those that a callable has already stay
in front of them. -/
def bindLeading? (id : Nat) : Value → List Value → Option Value
  | .function f, values => some (.applied id f values)
  | .applied _ f bound, values => some (.applied id f (bound ++ values))
  | _, _ => none

end Value

end Stencil
