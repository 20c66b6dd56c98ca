import Stencil.Signature

/-!
# Callback shapes

A shape says which of the position, the label and the element a join passes to its callback, after
the context that is always passed first. Where none is given it is read off the callback's arity.
-/

namespace Stencil

/-- The argument list of a callback. -/
inductive Shape where
  /-- Context, position, label, element. -/
  | indexName
  /-- Context, position, element. -/
  | index
  /-- Context, label, element. -/
  | name
  /-- Context, element. -/
  | bare
  deriving DecidableEq, Repr

/-- How a join walks over its items. -/
inductive Mode where
  /-- By position; the label is the decimal position. -/
  | sequence
  /-- By key; the label is the text of the key. -/
  | mapping
  deriving DecidableEq, Repr

namespace Shape

/-- All shapes in declaration order. -/
def all : List Shape := [.indexName, .index, .name, .bare]

/-- The name by which a shape is chosen. -/
def label : Shape → String
  | .indexName => "INDEX_NAME"
  | .index => "INDEX"
  | .name => "NAME"
  | .bare => "BARE"

/-- The tag that stands for a shape in data. -/
def tag : Shape → String
  | .indexName => "index_name"
  | .index => "index"
  | .name => "name"
  | .bare => "bare"

/-- The shape with the given name. -/
def ofLabel? (s : String) : Option Shape :=
  all.find? fun shape => shape.label == s

/-- The shape with the given tag. -/
def ofTag? (s : String) : Option Shape :=
  all.find? fun shape => shape.tag == s

/-- A shape is found again by its name. -/
theorem ofLabel?_label (s : Shape) : ofLabel? s.label = some s := by
  cases s <;> decide

/-- A shape is found again by its tag. -/
theorem ofTag?_tag (s : Shape) : ofTag? s.tag = some s := by
  cases s <;> decide

/-- The shape for a callback of the given arity: four arguments, or any number, receive everything;
three receive the label in mapping mode and the position otherwise; all else is bare. -/
def detect (arity : Arity) (mode : Mode) : Shape :=
  match arity, mode with
  | .variadic, _ => .indexName
  | .required 4, _ => .indexName
  | .required 3, .mapping => .name
  | .required 3, .sequence => .index
  | _, _ => .bare

/-- The number of arguments a shape passes. -/
def argumentCount : Shape → Nat
  | .indexName => 4
  | .index => 3
  | .name => 3
  | .bare => 2

/-- The argument list of a shape. -/
def arguments {α : Type} (shape : Shape) (context index name data : α) : List α :=
  match shape with
  | .indexName => [context, index, name, data]
  | .index => [context, index, data]
  | .name => [context, name, data]
  | .bare => [context, data]

/-- A shape passes as many arguments as it says. -/
@[simp] theorem length_arguments {α : Type} (shape : Shape) (c i n d : α) :
    (shape.arguments c i n d).length = shape.argumentCount := by
  cases shape <;> rfl

end Shape

end Stencil
