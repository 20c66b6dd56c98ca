import Stencil.Text.Quoted
import Stencil.Value.Basic

/-!
# Texts of values

A value has two texts. `Value.source` shows what it is, the way containers show their elements;
`Value.text` is the same but for texts, which stand for themselves, and shapes.
-/

namespace Stencil

/-- A shape as a constant of its family. -/
def Shape.text (s : Shape) : String :=
  "CallbackShape." ++ s.label

/-- A shape as a constant with its tag. -/
def Shape.source (s : Shape) : String :=
  "<" ++ s.text ++ ": " ++ Text.quoted s.tag ++ ">"

/-- A progression by its bounds, and by its step unless that is one. -/
def Progression.source (p : Progression) : String :=
  let bounds := "range(" ++ toString p.start ++ ", " ++ toString p.stop
  if p.step == 1 then bounds ++ ")" else bounds ++ ", " ++ toString p.step ++ ")"

/-- A function by its name alone. -/
def Closure.source (f : Closure) : String :=
  "<fn " ++ f.name ++ ">"

/-- The source of a tuple from the sources of its elements; a comma tells one element from a
parenthesis. -/
def tupleSource : List String → String
  | [s] => "(" ++ s ++ ",)"
  | ss => "(" ++ ", ".intercalate ss ++ ")"

mutual

/-- The source form of a value. -/
def Value.source : Value → String
  | .null => "None"
  | .bool b => if b then "True" else "False"
  | .int i => toString i
  | .str s => Text.quoted s
  | .list items => "[" ++ ", ".intercalate (sources items) ++ "]"
  | .tuple items => tupleSource (sources items)
  | .dict entries => "\x7b" ++ ", ".intercalate (entrySources entries) ++ "\x7d"
  | .bytes content => Text.quotedBytes content
  | .range p => p.source
  | .iterator _ => "<iter>"
  | .function f => f.source
  | .applied _ f bound =>
    "functools.partial(" ++ ", ".intercalate (f.source :: sources bound) ++ ")"
  | .context c => c.source
  | .shape s => s.source

/-- The source form of a context, which leaves out where it was derived from. -/
def Context.source : Context → String
  | ⟨_, data, _, index, name, depth⟩ =>
    "Context(data=" ++ data.source ++ ", index=" ++ index.source ++ ", name=" ++ name.source ++
      ", depth=" ++ toString depth ++ ")"

/-- The source forms of several values. -/
def sources : List Value → List String
  | [] => []
  | v :: vs => v.source :: sources vs

/-- The source forms of dictionary entries. -/
def entrySources : List (Value × Value) → List String
  | [] => []
  | (k, v) :: es => (k.source ++ ": " ++ v.source) :: entrySources es

end

/-- The text of a value: a text is its own, a shape drops its tag, all else is in source form. -/
def Value.text : Value → String
  | .str s => s
  | .shape s => s.text
  | v => v.source

end Stencil
