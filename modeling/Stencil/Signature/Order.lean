import Stencil.Signature
import Stencil.Text.Digit
import Stencil.Text.Identifier

/-!
# Parameter lists that can be declared

Parameters are declared in the order of their kinds, those of a kind without default before those
with one, each name once. A name is an identifier, and no reserved word where it could be given by
name. A point and digits are no name, but mark a parameter as implicit: it is filled by position
only, under a name that is made up for it. `Signature.declare` gives the signature that a parameter
list stands for, or the first breach of these rules.
-/

namespace Stencil

namespace ParameterKind

/-- The place of a kind in a declaration. -/
def rank : ParameterKind → Nat
  | .positionalOnly => 0
  | .positional => 1
  | .variadic => 2
  | .keywordOnly => 3
  | .keywordVariadic => 4

/-- What messages call a kind. -/
def description : ParameterKind → String
  | .positionalOnly => "positional-only"
  | .positional => "positional or keyword"
  | .variadic => "variadic positional"
  | .keywordOnly => "keyword-only"
  | .keywordVariadic => "variadic keyword"

end ParameterKind

/-- Why a parameter list cannot be declared. -/
inductive SignatureFault where
  /-- A parameter that takes all arguments left over has a default. -/
  | defaulted (kind : ParameterKind)
  /-- A parameter has the empty name. -/
  | unnamed
  /-- An implicit parameter is of a kind that is not filled by position or name. -/
  | misplacedImplicit (kind : ParameterKind)
  /-- A name is no identifier, or a reserved word. -/
  | misnamed (name : String)
  /-- A parameter of an earlier kind follows one of a later kind. -/
  | misordered (later earlier : ParameterKind)
  /-- A parameter without default follows one of its kind with a default. -/
  | requiredAfterDefault
  /-- Two parameters have one name. -/
  | repeated (name : String)
  deriving DecidableEq, Repr

/-- The words that name no parameter but a positional-only one. -/
def reservedWords : List String :=
  ["and", "as", "assert", "async", "await", "break", "class", "continue", "def", "del",
   "elif", "else", "except", "False", "finally", "for", "from", "global", "if", "import",
   "in", "is", "lambda", "None", "nonlocal", "not", "or", "pass", "raise", "return", "True",
   "try", "while", "with", "yield"]

namespace Parameter

/-- The digits that mark a parameter as implicit: those behind a point. -/
def implicitMark? (p : Parameter) : Option String :=
  match p.name.toList with
  | '.' :: digit :: digits =>
    if (digit :: digits).all Text.isDigit then some (String.ofList (digit :: digits)) else none
  | _ => none

/-- A parameter under the name that is made up for it if it is implicit. -/
def resolve (p : Parameter) : Except SignatureFault Parameter :=
  match p.implicitMark? with
  | none => .ok p
  | some digits =>
    if p.kind == .positional then
      .ok { p with name := "implicit" ++ digits, kind := .positionalOnly }
    else .error (.misplacedImplicit p.kind)

/-- Whether a parameter can have its name. -/
def isNamed (p : Parameter) : Bool :=
  Text.isIdentifier p.name && (p.kind == .positionalOnly || !reservedWords.contains p.name)

/-- The parameter that a declared one stands for, or its fault by itself. -/
def declare (p : Parameter) : Except SignatureFault Parameter :=
  if p.hasDefault && (p.kind == .variadic || p.kind == .keywordVariadic) then
    .error (.defaulted p.kind)
  else if p.name.isEmpty then .error .unnamed
  else do
    let p ← p.resolve
    if p.isNamed then .ok p else .error (.misnamed p.name)

end Parameter

namespace Signature

/-- The first breach of order in a list that follows parameters up to the kind `top`, of the given
names. Whether one of the kind `top` has a default is told by `seenDefault`. -/
def orderFaultFrom (top : ParameterKind) (seenDefault : Bool) (names : List String) :
    Signature → Option SignatureFault
  | [] => none
  | p :: ps =>
    let seenDefault := seenDefault && p.kind == top
    if p.kind.rank < top.rank then some (.misordered top p.kind)
    else if p.isRequired && seenDefault then some .requiredAfterDefault
    else if names.contains p.name then some (.repeated p.name)
    else
      orderFaultFrom p.kind (seenDefault || (p.isPositional && p.hasDefault)) (p.name :: names) ps

/-- The first breach of order. -/
def orderFault? (ps : Signature) : Option SignatureFault :=
  orderFaultFrom .positionalOnly false [] ps

/-- The signature that a parameter list stands for, or its fault. That of a parameter by itself
comes before a breach of order. -/
def declare (ps : List Parameter) : Except SignatureFault Signature := do
  let ps ← ps.mapM Parameter.declare
  match orderFault? ps with
  | some cause => .error cause
  | none => .ok ps

end Signature

end Stencil
