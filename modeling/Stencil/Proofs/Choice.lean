import Stencil.Proofs.Composition

/-!
# Choices

A conditional tests its condition first and renders then. Its two forms are one: to render templates
on a condition is to choose between the list of them and nothing, and to choose is to render the one
that is chosen, from where the test ended. So to negate the condition is to swap what is chosen
from, as long as the test of the negation is seen to do the same.
-/

namespace Stencil.Context

/-- In a state, a condition comes to a value and leaves another state: one call with the context and
its data gives the value, or else the condition is the value. -/
inductive Tests (h : Host) (c : Context) (condition : Value) (s : State) : Value → State → Prop
  /-- The condition is called once, and what it gives is not called again. -/
  | called {v : Value} {t : State} (hcondition : condition.isCallable = true)
      (hcall : (condition.call h [.context c, c.data]).run s = .ok v t) :
      Tests h c condition s v t
  /-- The condition cannot be called and is the value. -/
  | taken (hcondition : condition.isCallable = false) : Tests h c condition s condition s

section

variable {h : Host} {c : Context} {condition : Value} {s t : State}

theorem Tests.run_holds {v : Value} (hv : c.Tests h condition s v t) :
    (c.holds h condition).run s = .ok v.truthy t := by
  rw [holds, Action.run_bind_eq_ok_iff]
  cases hv with
  | called hcondition hcall =>
    rw [Value.resolve, if_pos hcondition]
    exact ⟨v, t, hcall, rfl⟩
  | taken hcondition =>
    rw [Value.resolve_of_not_isCallable hcondition]
    exact ⟨condition, s, rfl, rfl⟩

/-- To render on a condition is to test it and then render all templates or none. -/
theorem renderIf_eq_bind (templates : List Value) :
    c.renderIf h condition templates =
      c.holds h condition >>= fun holds => c.render h (if holds then templates else []) :=
  bind_congr fun holds => by
    cases holds with
    | true => rfl
    | false => exact (c.render_eq_renderLeaves []).symm

/-- To choose is to test the condition and then render what is chosen. -/
theorem renderIfElse_eq_bind (yes no : Value) :
    c.renderIfElse h condition yes no =
      c.holds h condition >>= fun holds => c.render h [if holds then yes else no] :=
  bind_congr fun holds => by cases holds <;> rfl

/-- A list is rendered like its elements. -/
theorem render_list (templates : List Value) :
    c.render h [.list templates] = c.render h templates := by
  simp [render_eq_renderLeaves]

theorem renderIf_eq_renderIfElse (templates : List Value) :
    c.renderIf h condition templates = c.renderIfElse h condition (.list templates) .null := by
  rw [renderIf_eq_bind, renderIfElse_eq_bind]
  refine bind_congr fun holds => ?_
  cases holds with
  | true => exact (c.render_list templates).symm
  | false => rw [render_eq_renderLeaves, render_eq_renderLeaves]; rfl

/-- To choose by the negated test is to choose between the same two, swapped. -/
theorem renderIfElse_eq_bind_not (yes no : Value) :
    c.renderIfElse h condition yes no =
      ((!·) <$> c.holds h condition) >>= fun holds => c.render h [if holds then no else yes] := by
  rw [renderIfElse_eq_bind, bind_map_left]
  exact bind_congr fun holds => by cases holds <;> rfl

/-- A test of what is known mentions nothing else. -/
theorem holds_mentions (huniform : h.Uniform) (hs : s.Knows [.context c, condition]) :
    (c.holds h condition).Mentions (fun _ holds => holds) s := by
  intro κ hκ
  have hholds := c.holds_follows (huniform κ) condition
  rwa [hs.context_rename hκ, hs.values κ.toRenaming hκ condition (by simp)] at hholds

/-- A test leaves a later state. -/
theorem before_of_holds (hlawful : h.Lawful) (huniform : h.Uniform)
    (hs : s.Knows [.context c, condition]) {holds : Bool}
    (hrun : (c.holds h condition).run s = .ok holds t) : s.Before t :=
  (holds_mentions huniform hs).before_of_ok (c.holds_advances hlawful condition) hrun

end

section

variable {h : Host} {c : Context} {condition negated yes no : Value} {s : State}

theorem run_renderIfElse_of_negated
    (hnegated : (c.holds h negated).run s = ((!·) <$> c.holds h condition).run s) :
    (c.renderIfElse h negated no yes).run s = (c.renderIfElse h condition yes no).run s := by
  rw [renderIfElse_eq_bind, renderIfElse_eq_bind_not yes no, EStateM.run_bind, EStateM.run_bind,
    hnegated]

theorem renderIfElse_endsAlike_of_negated (hlawful : h.Lawful) (huniform : h.Uniform)
    (hs : s.Knows [.context c, condition, negated, yes, no])
    (hnegated : EndsAlike s.iterators.size ((c.holds h negated).run s)
      (((!·) <$> c.holds h condition).run s)) :
    EndsAlike s.iterators.size ((c.renderIfElse h negated no yes).run s)
      ((c.renderIfElse h condition yes no).run s) := by
  rw [renderIfElse_eq_bind, renderIfElse_eq_bind_not yes no]
  refine hnegated.bind fun holds t u ht hu htu => ?_
  obtain ⟨_, hu, -⟩ := Action.run_map_eq_ok_iff.mp hu
  have hst := before_of_holds hlawful huniform (hs.subset (by grind)) ht
  have hsu := before_of_holds hlawful huniform (hs.subset (by grind)) hu
  have hchosen : (c.render h [if holds then no else yes]).Mentions Renaming.onText s :=
    render_mentions huniform (hs.subset (by grind))
  exact hchosen.endsAlike (c.render_advances hlawful _) hs hst hsu htu

end

/-- Rendering on a condition is choosing between the list of the templates and null. A callable
condition is called once, with the context and its data; if the call fails, so do both forms, and
else they render what is chosen by the truth of its result, from the state the call left. Any other
condition is taken as it is. Nothing else is rendered, and no templates are rendered as the empty
text. A negated condition chooses from the two templates swapped: if its test has the same outcome
but for the truth value, the choices have the same outcome, and if it is only seen to end alike,
though it may give out other identities, then so do the choices. -/
theorem condition_chooses_what_is_rendered (h : Host) (c : Context) (condition : Value) :
    (∀ templates, c.renderIf h condition templates =
      c.renderIfElse h condition (.list templates) .null) ∧
    (∀ s v t, c.Tests h condition s v t → ∀ templates yes no,
      (c.renderIf h condition templates).run s =
        (c.render h (if v.truthy then templates else [])).run t ∧
      (c.renderIfElse h condition yes no).run s =
        (c.render h [if v.truthy then yes else no]).run t) ∧
    (∀ s e t, condition.isCallable = true →
      (condition.call h [.context c, c.data]).run s = .error e t → ∀ templates yes no,
      (c.renderIf h condition templates).run s = .error e t ∧
      (c.renderIfElse h condition yes no).run s = .error e t) ∧
    c.render h [] = pure "" ∧
    (∀ negated s, (c.holds h negated).run s = ((!·) <$> c.holds h condition).run s →
      ∀ yes no, (c.renderIfElse h negated no yes).run s =
        (c.renderIfElse h condition yes no).run s) ∧
    (h.Lawful → h.Uniform → ∀ negated yes no s,
      s.Knows [.context c, condition, negated, yes, no] →
      EndsAlike s.iterators.size ((c.holds h negated).run s)
        (((!·) <$> c.holds h condition).run s) →
      EndsAlike s.iterators.size ((c.renderIfElse h negated no yes).run s)
        ((c.renderIfElse h condition yes no).run s)) := by
  refine ⟨renderIf_eq_renderIfElse, fun s v t hv templates yes no => ⟨?_, ?_⟩,
    fun s e t hcondition hcall templates yes no => ⟨?_, ?_⟩, c.render_eq_renderLeaves [],
    fun negated s hnegated yes no => run_renderIfElse_of_negated hnegated,
    fun hlawful huniform negated yes no s hs hnegated =>
      renderIfElse_endsAlike_of_negated hlawful huniform hs hnegated⟩
  · rw [renderIf_eq_bind, EStateM.run_bind, hv.run_holds]
  · rw [renderIfElse_eq_bind, EStateM.run_bind, hv.run_holds]
  · exact run_renderIf_eq_error_iff.mpr (.inl ⟨hcondition, hcall⟩)
  · exact run_renderIfElse_eq_error_iff.mpr (.inl ⟨hcondition, hcall⟩)

/-- A condition that logs a mark and is the negation of the data. -/
def loggingNegation : Value :=
  .function ⟨0, "not", none, .apply .last [.one (.apply .log [.one (.str "leaf")]),
    .one (.apply .negate [.one (.argument 1 0)])], []⟩

/-- The same, which leaves an identity behind. -/
def wastefulNegation : Value :=
  .function ⟨0, "not", none, .apply .last [.one (.function "unused" none .null),
    .one (.apply .log [.one (.str "leaf")]), .one (.apply .negate [.one (.argument 1 0)])], []⟩

/-- A condition that gives back the data, which could be called, is called once. Its negations,
one of which leaves an identity behind, choose from the swapped templates; so does the negation of a
literal. -/
theorem condition_chooses_what_is_rendered_of_callable :
    ((ofData 1 loggingLeaf).renderIf (.ofDepth 2) loggingLeaf [.str "x"]).run ⟨#[], #[], 2, []⟩ =
      .ok "x" ⟨#["leaf"], #[], 2, []⟩ ∧
    ((ofData 1 loggingLeaf).renderIfElse (.ofDepth 2) loggingNegation (.str "y") (.str "x")).run
        ⟨#[], #[], 2, []⟩ =
      ((ofData 1 loggingLeaf).renderIfElse (.ofDepth 2) loggingLeaf (.str "x") (.str "y")).run
        ⟨#[], #[], 2, []⟩ ∧
    EndsAlike 0
      (((ofData 1 loggingLeaf).renderIfElse (.ofDepth 2) wastefulNegation (.str "y") (.str "x")).run
        ⟨#[], #[], 2, []⟩)
      (((ofData 1 loggingLeaf).renderIfElse (.ofDepth 2) loggingLeaf (.str "x") (.str "y")).run
        ⟨#[], #[], 2, []⟩) ∧
    ((ofData 1 loggingLeaf).renderIf (.ofDepth 2) (.int 0) [loggingLeaf]).run ⟨#[], #[], 2, []⟩ =
      .ok "" ⟨#[], #[], 2, []⟩ ∧
    ((ofData 1 loggingLeaf).renderIf (.ofDepth 0) loggingLeaf [.str "x"]).run ⟨#[], #[], 2, []⟩ =
      .error .tooDeep ⟨#[], #[], 2, []⟩ := by
  obtain ⟨-, htested, -, hnothing, hsame, hseen⟩ :=
    condition_chooses_what_is_rendered (.ofDepth 2) (ofData 1 loggingLeaf) loggingLeaf
  obtain ⟨-, hliteral, -⟩ :=
    condition_chooses_what_is_rendered (.ofDepth 2) (ofData 1 loggingLeaf) (.int 0)
  obtain ⟨-, -, hfails, -⟩ :=
    condition_chooses_what_is_rendered (.ofDepth 0) (ofData 1 loggingLeaf) loggingLeaf
  refine ⟨?called, hsame loggingNegation _ rfl _ _, ?seen, ?taken,
    (hfails _ _ _ rfl rfl [.str "x"] .null .null).1⟩
  case called =>
    rw [(htested _ _ _ (.called rfl rfl) [.str "x"] .null .null).1, render_eq_renderLeaves]
    rfl
  case seen =>
    have hknows : (⟨#[], #[], 2, []⟩ : State).Knows [.context (ofData 1 loggingLeaf), loggingLeaf,
        wastefulNegation, .str "x", .str "y"] := by
      refine .of_holds_nothing #[] 2 fun ρ hid => ?_
      simp [loggingLeaf, wastefulNegation, ofData, new_rename, Value.rename, Closure.rename, hid 0,
        hid 1]
    exact hseen (Host.ofDepth_lawful 2) (Host.ofDepth_uniform 2) _ _ _ _ hknows
      (.ok false ⟨rfl, fun _ _ => rfl⟩)
  case taken =>
    rw [(hliteral _ _ _ (.taken rfl) [loggingLeaf] .null .null).1]
    show ((ofData 1 loggingLeaf).render (.ofDepth 2) []).run _ = _
    rw [hnothing]
    rfl

end Stencil.Context
