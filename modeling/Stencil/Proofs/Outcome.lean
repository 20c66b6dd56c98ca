import Stencil.Join
import Stencil.Proofs.Iteration
import Stencil.Rebind

/-!
# Outcomes of actions

An action in a state has one outcome: a result or a failure, with the state it reached. Steps in a
row succeed when each does, and fail with the first failure, in the state of that failure. Rendering
and rebinding are such rows, one step for each leaf and each selector. Several leaves are rendered
in an iteration, out of which the failure of a leaf has to come.
-/

namespace Stencil

namespace Action

section

variable {α β : Type} {a : Action α} {f : α → Action β} {s t : State}

/-- Two steps succeed when the first does and the second does after it. -/
theorem run_bind_eq_ok_iff {y : β} :
    (a >>= f).run s = .ok y t ↔ ∃ x u, a.run s = .ok x u ∧ (f x).run u = .ok y t := by
  rw [EStateM.run_bind]
  cases a.run s with
  | ok x u =>
    constructor
    · exact fun h => ⟨x, u, rfl, h⟩
    · rintro ⟨_, _, ⟨⟩, h⟩
      exact h
  | error e u => simp

/-- Two steps fail with the failure of the first, or else with that of the second. -/
theorem run_bind_eq_error_iff {e : Failure} :
    (a >>= f).run s = .error e t ↔
      a.run s = .error e t ∨ ∃ x u, a.run s = .ok x u ∧ (f x).run u = .error e t := by
  rw [EStateM.run_bind]
  cases a.run s with
  | ok x u =>
    constructor
    · exact fun h => .inr ⟨x, u, rfl, h⟩
    · rintro (⟨⟨⟩⟩ | ⟨_, _, ⟨⟩, h⟩)
      exact h
  | error e u => simp

theorem run_map_eq_error_iff {g : α → β} {e : Failure} :
    (g <$> a).run s = .error e t ↔ a.run s = .error e t := by
  rw [map_eq_pure_bind, run_bind_eq_error_iff]
  simp

theorem run_map_eq_ok_iff {g : α → β} {y : β} :
    (g <$> a).run s = .ok y t ↔ ∃ x, a.run s = .ok x t ∧ g x = y := by
  rw [map_eq_pure_bind, run_bind_eq_ok_iff]
  constructor
  · rintro ⟨x, u, hx, ⟨⟩⟩
    exact ⟨x, hx, rfl⟩
  · rintro ⟨x, hx, rfl⟩
    exact ⟨x, t, hx, rfl⟩

theorem run_pure_eq_ok_iff {x y : α} :
    (pure x : Action α).run s = .ok y t ↔ x = y ∧ s = t := by
  rw [EStateM.run_pure, EStateM.Result.ok.injEq]

theorem run_ofExcept_eq_ok_iff {r : Except Failure α} {x : α} :
    (ofExcept r).run s = .ok x t ↔ r = .ok x ∧ s = t := by
  cases r with
  | ok y =>
    rw [Except.ok.injEq]
    exact run_pure_eq_ok_iff
  | error e => exact iff_of_false (fun h => nomatch h) (fun h => nomatch h.1)

theorem run_ofExcept_eq_error_iff {r : Except Failure α} {e : Failure} :
    (ofExcept r).run s = .error e t ↔ r = .error e ∧ s = t := by
  cases r with
  | ok y => exact iff_of_false (fun h => nomatch h) (fun h => nomatch h.1)
  | error e =>
    constructor
    · rintro ⟨⟩
      exact ⟨rfl, rfl⟩
    · rintro ⟨⟨⟩, rfl⟩
      rfl

theorem run_freshId_eq_ok_iff {id : Nat} :
    freshId.run s = .ok id t ↔ id = s.nextId ∧ t = { s with nextId := s.nextId + 1 } := by
  constructor
  · rintro ⟨⟩
    exact ⟨rfl, rfl⟩
  · rintro ⟨rfl, rfl⟩
    rfl

/-- Steps over a list fail where the first of them does, those before it having succeeded. -/
theorem run_foldlM_eq_error_iff {f : β → α → Action β} {y : β} {xs : List α} {e : Failure} :
    (xs.foldlM f y).run s = .error e t ↔
      ∃ before x after z u, xs = before ++ x :: after ∧ (before.foldlM f y).run s = .ok z u ∧
        (f z x).run u = .error e t := by
  induction xs generalizing y s with
  | nil => simp
  | cons x xs ih =>
    rw [List.foldlM_cons, run_bind_eq_error_iff]
    constructor
    · rintro (h | ⟨z, u, hx, h⟩)
      · exact ⟨[], x, xs, y, s, rfl, rfl, h⟩
      · obtain ⟨before, x', after, w, v, rfl, hbefore, h⟩ := ih.mp h
        refine ⟨x :: before, x', after, w, v, rfl, ?_, h⟩
        rw [List.foldlM_cons]
        exact run_bind_eq_ok_iff.mpr ⟨z, u, hx, hbefore⟩
    · rintro ⟨before, x', after, w, v, he, hbefore, h⟩
      cases before with
      | nil =>
        obtain ⟨rfl, rfl⟩ := List.cons_eq_cons.mp he
        cases hbefore
        exact .inl h
      | cons b before =>
        obtain ⟨rfl, rfl⟩ := List.cons_eq_cons.mp he
        rw [List.foldlM_cons] at hbefore
        obtain ⟨z, u, hx, hbefore⟩ := run_bind_eq_ok_iff.mp hbefore
        exact .inr ⟨z, u, hx, ih.mpr ⟨before, x', after, w, v, rfl, hbefore, h⟩⟩

/-- A one-shot iterator has no element exactly when it is exhausted, and stays as it is. -/
theorem run_draw_eq_ok_none_iff {h : Host} {id : Nat} :
    (draw h id).run s = .ok none t ↔ s.iterator id = .idle [] ∧ t = s := by
  simp only [EStateM.run, draw]
  cases hs : s.iterator id with
  | running => simp
  | idle rest =>
    cases rest with
    | nil => simp [eq_comm]
    | cons next rest =>
      cases hf : (h.force next).iterated (s.setIterator id .running) <;> simp [hf]

/-- The next element is the first that is left, evaluated while the iterator is held. -/
theorem run_draw_eq_ok_some_iff {h : Host} {id : Nat} {v : Value} :
    (draw h id).run s = .ok (some v) t ↔ ∃ next rest u, s.iterator id = .idle (next :: rest) ∧
      (h.force next).run (s.setIterator id .running) = .ok v u ∧
      t = u.setIterator id (.idle rest) := by
  simp only [← run_iterated_eq_ok_iff (a := h.force _)]
  simp only [EStateM.run, draw]
  cases hs : s.iterator id with
  | running => simp
  | idle rest =>
    cases rest with
    | nil => simp
    | cons next rest =>
      constructor
      · cases hf : (h.force next).iterated (s.setIterator id .running) with
        | error e u => simp [hf]
        | ok w u =>
          simp only [hf]
          rintro ⟨⟩
          exact ⟨next, rest, u, rfl, hf, rfl⟩
      · rintro ⟨_, _, u, ⟨⟩, hf, rfl⟩
        simp only [hf]

/-- Taking an element fails when the iterator is evaluating one, or else when the element fails, and
then the iterator is exhausted. -/
theorem run_draw_eq_error_iff {h : Host} {id : Nat} {e : Failure} :
    (draw h id).run s = .error e t ↔
      (s.iterator id = .running ∧ e = .iteratorRunning ∧ t = s) ∨
      ∃ next rest u, s.iterator id = .idle (next :: rest) ∧
        (h.force next).iterated.run (s.setIterator id .running) = .error e u ∧
        t = u.setIterator id (.idle []) := by
  simp only [EStateM.run, draw]
  cases hs : s.iterator id with
  | running => simp [eq_comm]
  | idle rest =>
    cases rest with
    | nil => simp
    | cons next rest =>
      constructor
      · cases hf : (h.force next).iterated (s.setIterator id .running) with
        | ok v u => simp [hf]
        | error e' u =>
          simp only [hf]
          rintro ⟨⟩
          exact .inr ⟨next, rest, u, rfl, hf, rfl⟩
      · rintro (⟨⟨⟩, -⟩ | ⟨_, _, u, ⟨⟩, hf, rfl⟩)
        simp only [hf]

end

end Action

namespace Value

section

variable {h : Host} {v : Value} {arguments : List Value} {s t : State}

/-- What is not called comes to itself without effect. -/
theorem resolve_of_not_isCallable (hv : v.isCallable = false) : v.resolve h arguments = pure v := by
  simp only [resolve, hv, Bool.false_eq_true, ite_false]

/-- Only a call can keep a value from coming to something. -/
theorem run_resolve_eq_error_iff {e : Failure} :
    (v.resolve h arguments).run s = .error e t ↔
      v.isCallable = true ∧ (v.call h arguments).run s = .error e t := by
  cases hv : v.isCallable with
  | true => simp only [resolve, hv, ite_true, true_and]
  | false => simp [resolve_of_not_isCallable hv]

end

end Value

namespace Context

/-- The text of what a call gave, where null is the empty text and all else is refused. -/
def textOr (refuse : Value → Failure) : Value → Action String
  | .null => pure ""
  | .str text => pure text
  | v => throw (refuse v)

section

variable {h : Host} {c : Context} {s t : State} {e : Failure}

theorem run_renderLeaf_eq_error_iff {leaf : Value} :
    (c.renderLeaf h leaf).run s = .error e t ↔
      (leaf.isCallable = true ∧ (leaf.call h [.context c, c.data]).run s = .error e t) ∨
      ∃ v, (leaf.resolve h [.context c, c.data]).run s = .ok v t ∧ v.isNull = false ∧
        v.toText? = none ∧ e = .notText leaf v := by
  rw [renderLeaf, Action.run_bind_eq_error_iff, Value.run_resolve_eq_error_iff]
  refine or_congr_right ⟨?_, ?_⟩
  · rintro ⟨v, u, hv, hthrow⟩
    cases v with
    | null => cases hthrow
    | str text => cases hthrow
    | _ =>
      cases hthrow
      exact ⟨_, hv, rfl, rfl, rfl⟩
  · rintro ⟨v, hv, hnull, htext, rfl⟩
    refine ⟨v, t, hv, ?_⟩
    cases v with
    | null => cases hnull
    | str text => cases htext
    | _ => rfl

/-- Rendering templates is rendering their leaves. -/
theorem render_eq_renderLeaves (templates : List Value) :
    c.render h templates = c.renderLeaves h (Template.leaves templates) := by
  rw [render, Template.flatten_eq_leaves]

/-- The texts of leaves put together. The failure of a leaf is left as it is. -/
def renderEach (h : Host) (c : Context) (leaves : List Value) : Action String :=
  String.join <$> leaves.mapM (c.renderLeaf h)

/-- Whichever way is taken, rendering leaves comes to their texts put together, and only among
several of them is the failure of one changed. -/
theorem renderLeaves_eq_among (leaves : List Value) :
    c.renderLeaves h leaves = (c.renderEach h leaves).among leaves.length := by
  match leaves with
  | [] => simp [renderLeaves, renderEach]
  | [leaf] => simp [renderLeaves, renderEach, Action.among_of_le_one]
  | first :: second :: leaves =>
    rw [Action.among_of_one_lt (by simp), renderEach, Action.iterated_map, map_eq_pure_bind]
    rfl

/-- Leaves are rendered one after the other, and their texts put together in this order. -/
theorem renderEach_cons (leaf : Value) (leaves : List Value) :
    c.renderEach h (leaf :: leaves) =
      c.renderLeaf h leaf >>= fun text => (text ++ ·) <$> c.renderEach h leaves := by
  simp only [renderEach, List.mapM_cons, map_eq_pure_bind, bind_assoc, pure_bind,
    String.join_cons]

/-- Leaves in two parts are rendered part by part. -/
theorem renderEach_append (leaves others : List Value) :
    c.renderEach h (leaves ++ others) = (do
      let front ← c.renderEach h leaves
      let back ← c.renderEach h others
      pure (front ++ back)) := by
  induction leaves with
  | nil => simp [renderEach]
  | cons leaf leaves ih =>
    simp only [List.cons_append, renderEach_cons, ih, map_eq_pure_bind, bind_assoc, pure_bind,
      String.append_assoc]

/-- Behind a text that is there already, leaves are rendered by appending one after the other. -/
theorem map_append_renderEach (front : String) (leaves : List Value) :
    (front ++ ·) <$> c.renderEach h leaves =
      leaves.foldlM (fun text leaf => (text ++ ·) <$> c.renderLeaf h leaf) front := by
  induction leaves generalizing front with
  | nil => simp [renderEach]
  | cons leaf leaves ih =>
    simp only [List.foldlM_cons, renderEach_cons, ← ih, map_bind, Functor.map_map,
      bind_map_left, String.append_assoc]

/-- The text of leaves is that of each of them put together. -/
theorem run_renderLeaves_eq_ok_iff {leaves : List Value} {text : String} :
    (c.renderLeaves h leaves).run s = .ok text t ↔ (c.renderEach h leaves).run s = .ok text t := by
  rw [renderLeaves_eq_among, Action.run_among_eq_ok_iff]

/-- Rendering leaves fails where the first of them does, those before it having been rendered. Its
failure is changed only among several leaves. -/
theorem run_renderLeaves_eq_error_iff {leaves : List Value} :
    (c.renderLeaves h leaves).run s = .error e t ↔
      ∃ before leaf after text u cause, leaves = before ++ leaf :: after ∧
        (c.renderLeaves h before).run s = .ok text u ∧
        (c.renderLeaf h leaf).run u = .error cause t ∧ e = cause.among leaves.length := by
  have hfold : ∀ leaves : List Value, c.renderEach h leaves =
      leaves.foldlM (fun text leaf => (text ++ ·) <$> c.renderLeaf h leaf) "" := by
    intro leaves
    rw [← map_append_renderEach]
    simp
  rw [renderLeaves_eq_among, Action.run_among_eq_error_iff]
  simp only [run_renderLeaves_eq_ok_iff, hfold, Action.run_foldlM_eq_error_iff,
    Action.run_map_eq_error_iff]
  constructor
  · rintro ⟨cause, ⟨before, leaf, after, text, u, hleaves, hbefore, hleaf⟩, he⟩
    exact ⟨before, leaf, after, text, u, cause, hleaves, hbefore, hleaf, he⟩
  · rintro ⟨before, leaf, after, text, u, cause, hleaves, hbefore, hleaf, he⟩
    exact ⟨cause, ⟨before, leaf, after, text, u, hleaves, hbefore, hleaf⟩, he⟩

/-- A step of a rebinding fails where its selector does. -/
theorem run_rebindOnce_eq_error_iff {selector : Value} :
    (c.rebindOnce h selector).run s = .error e t ↔
      selector.isCallable = true ∧ (selector.call h [c.data]).run s = .error e t := by
  rw [rebindOnce, Action.run_bind_eq_error_iff, Value.run_resolve_eq_error_iff]
  refine or_iff_left ?_
  rintro ⟨data, u, _, hid⟩
  cases hid

/-- A rebinding fails where the first of its selectors does, those before it having led to a
context. -/
theorem run_rebind_eq_error_iff {selectors : List Value} :
    (c.rebind h selectors).run s = .error e t ↔
      ∃ before selector after d u, selectors = before ++ selector :: after ∧
        (c.rebind h before).run s = .ok d u ∧ selector.isCallable = true ∧
        (selector.call h [d.data]).run u = .error e t := by
  simp only [rebind, Action.run_foldlM_eq_error_iff, run_rebindOnce_eq_error_iff]

/-- A condition fails only when it is called. -/
theorem run_holds_eq_error_iff {condition : Value} :
    (c.holds h condition).run s = .error e t ↔
      condition.isCallable = true ∧
        (condition.call h [.context c, c.data]).run s = .error e t := by
  rw [holds, Action.run_bind_eq_error_iff, Value.run_resolve_eq_error_iff]
  refine or_iff_left ?_
  rintro ⟨data, u, _, hpure⟩
  cases hpure

/-- Rendering fails where the first leaf does, those before it having been rendered. -/
theorem run_render_eq_error_iff {templates : List Value} :
    (c.render h templates).run s = .error e t ↔
      ∃ before leaf after text u cause, Template.leaves templates = before ++ leaf :: after ∧
        (c.renderLeaves h before).run s = .ok text u ∧
        (c.renderLeaf h leaf).run u = .error cause t ∧
        e = cause.among (Template.leaves templates).length := by
  rw [render_eq_renderLeaves, run_renderLeaves_eq_error_iff]

/-- Rendering on a condition fails where the condition does, or the templates if it holds. -/
theorem run_renderIf_eq_error_iff {condition : Value} {templates : List Value} :
    (c.renderIf h condition templates).run s = .error e t ↔
      (condition.isCallable = true ∧
        (condition.call h [.context c, c.data]).run s = .error e t) ∨
      ∃ u, (c.holds h condition).run s = .ok true u ∧
        (c.render h templates).run u = .error e t := by
  rw [renderIf, Action.run_bind_eq_error_iff, run_holds_eq_error_iff]
  refine or_congr_right ⟨?_, ?_⟩
  · rintro ⟨holds, u, hcondition, hbranch⟩
    cases holds with
    | true => exact ⟨u, hcondition, hbranch⟩
    | false => cases hbranch
  · rintro ⟨u, hcondition, hrender⟩
    exact ⟨true, u, hcondition, hrender⟩

/-- Rendering one of two templates fails where the condition does, or the template it decides on. -/
theorem run_renderIfElse_eq_error_iff {condition yes no : Value} :
    (c.renderIfElse h condition yes no).run s = .error e t ↔
      (condition.isCallable = true ∧
        (condition.call h [.context c, c.data]).run s = .error e t) ∨
      ∃ holds u, (c.holds h condition).run s = .ok holds u ∧
        (c.render h [if holds then yes else no]).run u = .error e t := by
  rw [renderIfElse, Action.run_bind_eq_error_iff, run_holds_eq_error_iff]
  refine or_congr_right (exists_congr fun holds => ?_)
  cases holds <;> rfl

end

end Context

end Stencil
