import Stencil.Value.Basic

/-!
# Contexts and their lineage

Contexts are only ever derived from one another, so the links to the parents form a chain that ends
at a root. Each context stores its depth, which `Context.new` computes from the parent's; the other
facts about the lineage are read off the chain.
-/

namespace Stencil.Context

/-- A context one level below its parent, or at depth zero without one. -/
def new (id : Nat) (data : Value) (parent : Option Context) (index name : Value) : Context :=
  { id, data, parent, index, name, depth := parent.elim 0 fun p => p.depth + 1 }

/-- A root context. -/
def ofData (id : Nat) (data : Value) : Context :=
  new id data none (.int 0) (.str "0")

/-- The child of a context with new data, in first position. -/
def derive (id : Nat) (c : Context) (data : Value) : Context :=
  new id data (some c) (.int 0) (.str "0")

/-- The data of the parent, null at the root. -/
def parentData (c : Context) : Value :=
  match c.parent with
  | some p => p.data
  | none => .null

/-- The data of the contexts above, nearest first and root last. -/
def parents : Context → List Value
  | ⟨_, _, none, _, _, _⟩ => []
  | ⟨_, _, some p, _, _, _⟩ => p.data :: p.parents

/-- The data of the outermost context. -/
def rootData : Context → Value
  | ⟨_, data, none, _, _, _⟩ => data
  | ⟨_, _, some p, _, _, _⟩ => p.rootData

@[simp] theorem data_new (k : Nat) (d : Value) (p : Option Context) (i n : Value) :
    (new k d p i n).data = d := rfl

@[simp] theorem parent_new (k : Nat) (d : Value) (p : Option Context) (i n : Value) :
    (new k d p i n).parent = p := rfl

@[simp] theorem depth_new_none (k : Nat) (d i n : Value) : (new k d none i n).depth = 0 := rfl

@[simp] theorem depth_new_some (k : Nat) (d : Value) (p : Context) (i n : Value) :
    (new k d (some p) i n).depth = p.depth + 1 := rfl

@[simp] theorem parents_new_none (k : Nat) (d i n : Value) : (new k d none i n).parents = [] := rfl

@[simp] theorem parents_new_some (k : Nat) (d : Value) (p : Context) (i n : Value) :
    (new k d (some p) i n).parents = p.data :: p.parents := rfl

@[simp] theorem rootData_new_none (k : Nat) (d i n : Value) : (new k d none i n).rootData = d := rfl

@[simp] theorem rootData_new_some (k : Nat) (d : Value) (p : Context) (i n : Value) :
    (new k d (some p) i n).rootData = p.rootData := rfl

end Stencil.Context
