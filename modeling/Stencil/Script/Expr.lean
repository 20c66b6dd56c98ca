import Stencil.Signature

/-!
# Script expressions

Scripts are the expressions that data and callables are written in. Most of them apply an operation
to operands that are evaluated first, from left to right; the rest (functions, one-shot iterators,
dictionaries, branches, references) have rules of their own.
-/

namespace Stencil

/-- The operations that take evaluated operands. -/
inductive Operation where
  /-- The operands as a list. -/
  | list
  /-- The operands as a tuple. -/
  | tuple
  /-- A byte string from hexadecimal digits. -/
  | bytes
  /-- An arithmetic progression. -/
  | range
  /-- A list of equal elements. -/
  | repeated
  /-- A value inside one-element lists. -/
  | nest
  /-- The list of the first natural numbers. -/
  | upto
  /-- Look-up by key or position. -/
  | get
  /-- Look-up in a dictionary that gives null for an absent key. -/
  | getOptional
  /-- The text of a value. -/
  | text
  /-- The texts of all operands, one after the other. -/
  | concatenate
  /-- The name of a value's type. -/
  | typeName
  /-- Negated truth. -/
  | negate
  /-- Equality. -/
  | equal
  /-- Strict order. -/
  | less
  /-- Sum of integers, or one sequence after the other. -/
  | add
  /-- Remainder toward the floor. -/
  | modulo
  /-- Number of elements. -/
  | length
  /-- The last operand. -/
  | last
  /-- Appends a text to the log. -/
  | log
  /-- Fails with a given kind and message. -/
  | fail
  /-- A callable with leading arguments bound for good. -/
  | bind
  /-- A new context. -/
  | newContext
  /-- A field or derived property of a context or shape. -/
  | attribute
  /-- An attempt to change a field. -/
  | setAttribute
  /-- An attempt to remove a field. -/
  | deleteAttribute
  /-- Renders templates in a context. -/
  | render
  /-- Renders templates on a condition. -/
  | renderIf
  /-- Renders one of two templates. -/
  | renderIfElse
  /-- Joins over items of either kind. -/
  | join
  /-- Joins by position. -/
  | joinSequence
  /-- Joins by key. -/
  | joinMapping
  /-- Rebinds the data of a context. -/
  | rebind
  /-- Renders templates against data in a new root context. -/
  | applyData
  /-- The leaves of templates. -/
  | flatten
  /-- Whether a template is called when rendered. -/
  | isTemplateFunction
  /-- Whether a condition is called when tested. -/
  | isConditionFunction
  /-- Whether a selector is called when rebinding. -/
  | isSelectorFunction
  /-- Whether a template is expanded in place. -/
  | isTemplateSequence
  /-- The number that stands for a callable's arity. -/
  | arity
  /-- The shape read off a callable. -/
  | detectShape
  /-- Calls a callback with the arguments of a shape. -/
  | invokeCallback
  /-- A shape by name. -/
  | shapeNamed
  /-- A shape by tag. -/
  | shapeTagged
  /-- All shapes. -/
  | shapes
  deriving DecidableEq, Repr

mutual
/-- An expression. -/
inductive Expr where
  /-- Null. -/
  | null
  /-- A truth value. -/
  | bool (b : Bool)
  /-- An integer. -/
  | int (i : Int)
  /-- A text. -/
  | str (s : String)
  /-- An argument of the innermost function call, or of one `level` calls further out; a negative
  index counts from behind. -/
  | argument (index : Int) (level : Nat)
  /-- The value of an earlier step, looked up when the expression is evaluated. -/
  | variable (name : String)
  /-- A function over the arguments in scope; without a signature it takes any arguments. -/
  | function (name : String) (signature : Option Signature) (body : Expr)
  /-- A one-shot iterator, whose elements are evaluated when they are asked for. -/
  | iterator (elements : List Expr)
  /-- A dictionary, evaluated entry by entry, each key before its value. -/
  | dictionary (entries : List (Expr × Expr))
  /-- Evaluates the condition and then only the chosen branch. -/
  | branch (condition yes no : Expr)
  /-- An operation on evaluated operands. -/
  | apply (operation : Operation) (operands : List Operand)
/-- An operand of an operation. -/
inductive Operand where
  /-- One value. -/
  | one (e : Expr)
  /-- A value whose elements are the operands. -/
  | spread (e : Expr)
end

instance : Inhabited Expr := ⟨.null⟩

end Stencil
