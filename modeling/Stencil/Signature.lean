/-!
# Signatures of callables

A signature is the declared parameter list of a callable. Calls pass positional arguments only, so
a signature decides three things: which numbers of arguments it binds (`Signature.bindError?`), what
remains of it once leading arguments are bound for good (`Signature.drop?`), and how many arguments
it asks for (`Signature.arity`).
-/

namespace Stencil

/-- How a parameter can receive a value. -/
inductive ParameterKind where
  /-- By position only. -/
  | positionalOnly
  /-- By position, or by name where names can be passed. -/
  | positional
  /-- Takes every positional argument that is left over. -/
  | variadic
  /-- By name only; a positional call never fills it. -/
  | keywordOnly
  /-- Takes every named argument that is left over. -/
  | keywordVariadic
  deriving DecidableEq, Repr

/-- One declared parameter. -/
structure Parameter where
  /-- The bare name, shown when the parameter is missing. -/
  name : String
  /-- The way it is filled. -/
  kind : ParameterKind
  /-- Whether it may stay unfilled. -/
  hasDefault : Bool
  deriving DecidableEq, Repr

namespace Parameter

/-- A parameter that takes exactly one positional argument. -/
def isPositional (p : Parameter) : Bool :=
  match p.kind with
  | .positionalOnly | .positional => true
  | .variadic | .keywordOnly | .keywordVariadic => false

/-- A parameter that takes all remaining positional arguments. -/
def isVariadic (p : Parameter) : Bool :=
  p.kind == .variadic

/-- A positional parameter without default. -/
def isRequired (p : Parameter) : Bool :=
  p.isPositional && !p.hasDefault

/-- A keyword-only parameter without default, which no positional call can fill. -/
def isUnfillable (p : Parameter) : Bool :=
  p.kind == .keywordOnly && !p.hasDefault

end Parameter

/-- The parameters of a callable in declaration order. -/
abbrev Signature := List Parameter

/-- Why a call does not bind. -/
inductive BindError where
  /-- More arguments than positional parameters, and no variadic one. -/
  | tooMany
  /-- The named parameter has no default and got no argument. -/
  | missing (name : String)
  /-- A callable whose parameters cannot be read does not take so many, and says so. -/
  | refused (text : String)
  deriving DecidableEq, Repr

/-- What a callable's signature says about the number of arguments it wants. -/
inductive Arity where
  /-- Any number: there is a variadic parameter. -/
  | variadic
  /-- The signature cannot be read. -/
  | unknown
  /-- The number of positional parameters without default. -/
  | required (count : Nat)
  deriving DecidableEq, Repr

/-- The number that stands for an arity: the count itself, or a negative mark. -/
def Arity.code : Arity → Int
  | .variadic => -1
  | .unknown => -2
  | .required n => n

namespace Signature

/-- The number of positional parameters. -/
def capacity (ps : Signature) : Nat :=
  ps.countP Parameter.isPositional

/-- The number of positional parameters without default. -/
def requiredCount (ps : Signature) : Nat :=
  ps.countP Parameter.isRequired

/-- Whether some parameter takes all remaining positional arguments. -/
def isVariadic (ps : Signature) : Bool :=
  ps.any Parameter.isVariadic

/-- The first parameter that stays empty when `k` positional arguments fill the list from the left,
though it has no default. -/
def firstUnfilled? : Signature → Nat → Option String
  | [], _ => none
  | p :: ps, 0 => if p.isRequired || p.isUnfillable then some p.name else firstUnfilled? ps 0
  | p :: ps, k + 1 =>
    if p.isPositional then firstUnfilled? ps k
    else if p.isUnfillable then some p.name
    else firstUnfilled? ps (k + 1)

/-- The fault of a call with `k` positional arguments, if there is one. An excess of arguments is
reported before a missing one. -/
def bindError? (ps : Signature) (k : Nat) : Option BindError :=
  if capacity ps < k && !isVariadic ps then some .tooMany
  else (firstUnfilled? ps k).map .missing

/-- Whether a call with `k` positional arguments binds. -/
def accepts (ps : Signature) (k : Nat) : Bool :=
  (bindError? ps k).isNone

/-- The names of the required positional parameters that stay empty when `k` positional arguments
fill the list from the left. -/
def unfilled (ps : Signature) (k : Nat) : List String :=
  (((ps.filter Parameter.isPositional).drop k).filter Parameter.isRequired).map (·.name)

/-- The signature that is left once `n` leading positional arguments are bound for good. A variadic
parameter absorbs any number and stays; without one, binding more than there are positional
parameters leaves no readable signature. -/
def drop? : Signature → Nat → Option Signature
  | ps, 0 => some ps
  | [], _ + 1 => none
  | p :: ps, n + 1 =>
    if p.isPositional then drop? ps n
    else if p.isVariadic then some (p :: ps)
    else (drop? ps (n + 1)).map (p :: ·)

/-- Scans for the arity with `count` required parameters already seen. -/
def arityFrom (count : Nat) : Signature → Arity
  | [] => .required count
  | p :: ps =>
    if p.isVariadic then .variadic
    else arityFrom (if p.isRequired then count + 1 else count) ps

/-- The arity: variadic as soon as a variadic parameter is met, else the number of required
positional parameters. -/
def arity (ps : Signature) : Arity :=
  arityFrom 0 ps

end Signature

end Stencil
