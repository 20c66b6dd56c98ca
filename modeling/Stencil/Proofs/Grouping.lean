import Mathlib.Logic.Relation
import Stencil.Proofs.Outcome

/-!
# The grouping of templates

Lists, tuples and null only group templates. A step of regrouping encloses some neighbours in a
list or tuple, or inserts null, in any place. Two argument lists have the same leaves exactly when
finitely many such steps, forth and back, lead from one to the other: no step changes the leaves,
and every argument list can be taken apart into its leaves.
-/

namespace Stencil

namespace Template

/-- One step of regrouping template arguments, at any depth. -/
inductive Regroups : List Value → List Value → Prop
  /-- Neighbours, possibly none, are enclosed in a list. -/
  | encloseList (before run after : List Value) :
      Regroups (before ++ run ++ after) (before ++ .list run :: after)
  /-- Neighbours, possibly none, are enclosed in a tuple. -/
  | encloseTuple (before run after : List Value) :
      Regroups (before ++ run ++ after) (before ++ .tuple run :: after)
  /-- Null is inserted. -/
  | insertNull (before after : List Value) :
      Regroups (before ++ after) (before ++ .null :: after)
  /-- A step inside a list. -/
  | inList (before after : List Value) {items items' : List Value} (h : Regroups items items') :
      Regroups (before ++ .list items :: after) (before ++ .list items' :: after)
  /-- A step inside a tuple. -/
  | inTuple (before after : List Value) {items items' : List Value} (h : Regroups items items') :
      Regroups (before ++ .tuple items :: after) (before ++ .tuple items' :: after)

/-- Finitely many steps of regrouping, each in either direction. -/
def Regrouped : List Value → List Value → Prop :=
  Relation.EqvGen Regroups

/-- A step leaves the leaves as they are. -/
theorem Regroups.leaves_eq {ts us : List Value} (h : Regroups ts us) : leaves ts = leaves us := by
  induction h with
  | encloseList before run after => simp
  | encloseTuple before run after => simp
  | insertNull before after => simp
  | inList before after _ ih => simp [ih]
  | inTuple before after _ ih => simp [ih]

/-- A step may be taken among further arguments. -/
theorem Regroups.append {ts us : List Value} (h : Regroups ts us) (front back : List Value) :
    Regroups (front ++ ts ++ back) (front ++ us ++ back) := by
  cases h with
  | encloseList before run after =>
    simpa using encloseList (front ++ before) run (after ++ back)
  | encloseTuple before run after =>
    simpa using encloseTuple (front ++ before) run (after ++ back)
  | insertNull before after => simpa using insertNull (front ++ before) (after ++ back)
  | inList before after h => simpa using inList (front ++ before) (after ++ back) h
  | inTuple before after h => simpa using inTuple (front ++ before) (after ++ back) h

namespace Regrouped

variable {ts us : List Value}

theorem leaves_eq (h : Regrouped ts us) : leaves ts = leaves us := by
  induction h with
  | rel _ _ h => exact h.leaves_eq
  | refl => rfl
  | symm _ _ _ ih => exact ih.symm
  | trans _ _ _ _ _ ih ih' => exact ih.trans ih'

theorem append (h : Regrouped ts us) (front back : List Value) :
    Regrouped (front ++ ts ++ back) (front ++ us ++ back) := by
  induction h with
  | rel _ _ h => exact .rel _ _ (h.append front back)
  | refl => exact .refl _
  | symm _ _ _ ih => exact .symm _ _ ih
  | trans _ _ _ _ _ ih ih' => exact .trans _ _ _ ih ih'

end Regrouped

mutual

/-- A template is taken apart into its leaves, by recursion on its structure. -/
theorem regrouped_leavesOf : ∀ v : Value, Regrouped [v] (leavesOf v)
  | .null => .symm _ _ (.rel _ _ (.insertNull [] []))
  | .list items => by
    have hunwrap : Regroups items [.list items] := by
      simpa using Regroups.encloseList [] items []
    exact .trans _ _ _ (.symm _ _ (.rel _ _ hunwrap)) (regrouped_leaves items)
  | .tuple items => by
    have hunwrap : Regroups items [.tuple items] := by
      simpa using Regroups.encloseTuple [] items []
    exact .trans _ _ _ (.symm _ _ (.rel _ _ hunwrap)) (regrouped_leaves items)
  | .bool _ | .int _ | .str _ | .dict _ | .bytes _ | .range _ | .iterator _ | .function _
  | .applied _ _ _ | .context _ | .shape _ => .refl _

theorem regrouped_leaves : ∀ vs : List Value, Regrouped vs (leaves vs)
  | [] => .refl _
  | v :: vs => by
    have hfirst : Regrouped (v :: vs) (leavesOf v ++ vs) := by
      simpa using (regrouped_leavesOf v).append [] vs
    have hrest : Regrouped (leavesOf v ++ vs) (leavesOf v ++ leaves vs) := by
      simpa using (regrouped_leaves vs).append (leavesOf v) []
    exact .trans _ _ _ hfirst hrest

end

/-- The leaves are all that regrouping keeps. -/
theorem regrouped_iff_leaves_eq {ts us : List Value} :
    Regrouped ts us ↔ leaves ts = leaves us := by
  constructor
  · exact Regrouped.leaves_eq
  · intro h
    have hus := regrouped_leaves us
    rw [← h] at hus
    exact .trans _ _ _ (regrouped_leaves ts) (.symm _ _ hus)

end Template

open Template in
/-- Flattening forgets the grouping of templates and nothing else, so rendering, on a condition or
not, and against data, is the same for argument lists that differ in grouping only. -/
theorem flattening_forgets_grouping (ts us : List Value) :
    (flatten ts = flatten us ↔ Regrouped ts us) ∧
    (Regrouped ts us → ∀ h : Host,
      (∀ c : Context, c.render h ts = c.render h us) ∧
      (∀ (c : Context) (condition : Value),
        c.renderIf h condition ts = c.renderIf h condition us) ∧
      ∀ (data t u : Value) (ts' us' : List Value), ts = t :: ts' → us = u :: us' →
        applyData h data t ts' = applyData h data u us') := by
  refine ⟨?_, fun hregrouped h => ?_⟩
  · rw [flatten_eq_leaves, flatten_eq_leaves, regrouped_iff_leaves_eq]
  · have hrender : ∀ c : Context, c.render h ts = c.render h us := fun c => by
      rw [Context.render_eq_renderLeaves, hregrouped.leaves_eq, Context.render_eq_renderLeaves]
    refine ⟨hrender, fun c condition => ?_, fun data t u ts' us' hts hus => ?_⟩
    · rw [Context.renderIf, Context.renderIf, hrender]
    · subst hts hus
      rw [applyData, applyData]
      exact bind_congr fun id => hrender (Context.ofData id data)

/-- Texts inside lists, null and an empty tuple, against the same texts in one tuple. -/
theorem flattening_forgets_grouping_of_texts :
    Template.Regrouped [.list [.str "a", .null], .list [.tuple [.list []], .str "b"]]
        [.tuple [.str "a", .str "b"]] ∧
      ∀ (h : Host) (c : Context),
        c.render h [.list [.str "a", .null], .list [.tuple [.list []], .str "b"]] =
          c.render h [.tuple [.str "a", .str "b"]] := by
  have hgrouping := flattening_forgets_grouping
    [.list [.str "a", .null], .list [.tuple [.list []], .str "b"]] [.tuple [.str "a", .str "b"]]
  have hregrouped := hgrouping.1.mp <| by
    rw [Template.flatten_eq_leaves, Template.flatten_eq_leaves]
    rfl
  exact ⟨hregrouped, fun h => (hgrouping.2 hregrouped h).1⟩

end Stencil
