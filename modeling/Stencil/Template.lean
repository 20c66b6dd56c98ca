import Stencil.Value.Basic

/-!
# Templates

A template is any value: lists and tuples nest templates, null stands for nothing, and all else is a
leaf. `Template.leaves` is the list of leaves, depth first and left to right; `Template.flatten`
computes it with an explicit stack, so that the nesting may be arbitrarily deep.
-/

namespace Stencil.Template

mutual

/-- The leaves of a template. -/
def leavesOf : Value → List Value
  | .null => []
  | .list items => leaves items
  | .tuple items => leaves items
  | v => [v]

/-- The leaves of several templates, one after the other. -/
def leaves : List Value → List Value
  | [] => []
  | v :: vs => leavesOf v ++ leaves vs

end

/-- Appends the leaves of what remains of each frame, the top of the stack first, to the leaves
found so far, which are kept in reverse. -/
def flattenStack (stack : List (List Value)) (found : List Value) : List Value :=
  match stack with
  | [] => found.reverse
  | [] :: frames => flattenStack frames found
  | (.null :: rest) :: frames => flattenStack (rest :: frames) found
  | (.list items :: rest) :: frames => flattenStack (items :: rest :: frames) found
  | (.tuple items :: rest) :: frames => flattenStack (items :: rest :: frames) found
  | (v :: rest) :: frames => flattenStack (rest :: frames) (v :: found)
termination_by stack

/-- The stack loop finds what the recursion finds, frame by frame. -/
theorem flattenStack_eq (stack : List (List Value)) (found : List Value) :
    flattenStack stack found = found.reverse ++ stack.flatMap leaves := by
  fun_induction flattenStack stack found <;> simp_all [leaves, leavesOf]

/-- The leaves of template arguments, which form the outermost sequence. -/
def flatten (templates : List Value) : List Value :=
  flattenStack [templates] []

/-- The two ways to find the leaves agree. -/
theorem flatten_eq_leaves (templates : List Value) : flatten templates = leaves templates := by
  simp [flatten, flattenStack_eq]

@[simp] theorem leaves_nil : leaves [] = [] := rfl

@[simp] theorem leaves_cons (v : Value) (vs : List Value) :
    leaves (v :: vs) = leavesOf v ++ leaves vs := rfl

/-- Leaves are found from left to right. -/
@[simp] theorem leaves_append (vs ws : List Value) :
    leaves (vs ++ ws) = leaves vs ++ leaves ws := by
  induction vs with
  | nil => rfl
  | cons v vs ih => simp [ih]

@[simp] theorem leavesOf_null : leavesOf .null = [] := rfl

@[simp] theorem leavesOf_list (vs : List Value) : leavesOf (.list vs) = leaves vs := rfl

@[simp] theorem leavesOf_tuple (vs : List Value) : leavesOf (.tuple vs) = leaves vs := rfl

end Stencil.Template
