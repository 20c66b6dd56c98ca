import Stencil.Proofs.Folding
import Stencil.Proofs.Inlining
import Stencil.Proofs.JoinRun

/-!
# Joins over a single element

A join over one element and rendering in the context rebound to it are the same call: of the same
callable, in the same child context, with the same data (`Context.callOver`). There is no second
result for a separator to stand in front of, and nothing opens or closes the text. The two differ
only in how they refuse a result that is neither a text nor null: a join names its position, and
rendering names the callable.
-/

namespace Stencil.Context

/-- Calls a callable for an element in a child context in first position. -/
def callOver (h : Host) (c : Context) (item callable : Value) (refuse : Value → Failure) :
    Action String := do
  let id ← Action.freshId
  let result ← callable.call h [.context (c.derive id item), item]
  textOr refuse result

section

variable {h : Host} {c : Context} {item callable : Value} {separator : String}
  {refuse : Value → Failure} {s t : State}

/-- A single result is the whole text of a join: nothing is put in front of it or behind it. -/
theorem assemble_of_single (result : Value) :
    c.assemble h ⟨.str separator, callable, .null, .null, .shape .bare⟩
        (if result.isNull then [] else [result]) = textOr (.notJoinableText 0) result := by
  have hnothing : c.render h [.null] = pure "" := by
    rw [render_eq_renderLeaves]
    rfl
  have hkept : c.assemble h ⟨.str separator, callable, .null, .null, .shape .bare⟩ [result] =
      Action.ofExcept (joinResults (.str separator) [result]) := by
    show (c.render h [.null] >>= fun opening =>
      Action.ofExcept (joinResults (.str separator) [result]) >>= fun body =>
        c.render h [.null] >>= fun closing => pure (opening ++ body ++ closing)) = _
    rw [hnothing]
    simp only [pure_bind, String.empty_append, String.append_empty, bind_pure]
  cases result with
  | null => rfl
  | str text =>
    have htexts : joinResults (.str separator) [.str text] = .ok (separator.intercalate [text]) :=
      joinResults_texts separator [text]
    rw [htexts, String.intercalate_singleton] at hkept
    exact hkept
  | _ => exact hkept

/-- A join over one element is one call. -/
theorem join_single (h : Host) (c : Context) (item callable : Value) (separator : String) :
    c.join h (.list [item]) ⟨.str separator, callable, .null, .null, .shape .bare⟩ =
      c.callOver h item callable (.notJoinableText 0) := by
  have hcollect : (Feed.ofElements [item]).collect (c.visit h callable .bare) =
      c.visit h callable .bare (.positional 0 item) >>= fun result =>
        pure (if result.isNull then [] else [result]) := by
    rw [Feed.collect, Feed.limit_ofElements, List.length_singleton, Feed.collectFrom,
      Feed.fetch_ofElements, pure_bind]
    show (c.visit h callable .bare (.positional 0 item) >>= fun result =>
      (Feed.ofElements [item]).collectFrom _ 0 1 (if result.isNull then [] else [result])) = _
    refine bind_congr fun result => ?_
    cases result <;> rfl
  show (Feed.ofElements [item]).collect (c.visit h callable .bare) >>=
    c.assemble h ⟨.str separator, callable, .null, .null, .shape .bare⟩ = _
  rw [hcollect, bind_assoc, visit, bind_assoc]
  refine bind_congr fun id => bind_congr fun result => ?_
  rw [pure_bind]
  exact assemble_of_single result

/-- Rendering a callable in a context rebound to a value is one call. -/
theorem render_rebind_single (h : Host) (c : Context) (hitem : item.isCallable = false)
    (hcallable : callable.isCallable = true) :
    (c.rebind h [item] >>= fun d => d.render h [callable]) =
      c.callOver h item callable (.notText callable) := by
  have hrebind : c.rebind h [item] = Action.freshId >>= fun id => pure (c.derive id item) := by
    rw [rebind, List.foldlM_cons, rebindOnce, Value.resolve_of_not_isCallable hitem, pure_bind]
    exact bind_pure _
  rw [hrebind, bind_assoc, callOver]
  refine bind_congr fun id => ?_
  rw [pure_bind, render_of_isCallable h _ hcallable]
  rfl

/-- After an identity is given out for the child context, the call decides. -/
theorem run_callOver : (c.callOver h item callable refuse).run s =
    (callable.call h [.context (c.derive s.nextId item), item] >>= textOr refuse).run
      { s with nextId := s.nextId + 1 } := rfl

theorem run_callOver_of_error {e : Failure}
    (hcall : (callable.call h [.context (c.derive s.nextId item), item]).run
      { s with nextId := s.nextId + 1 } = .error e t) :
    (c.callOver h item callable refuse).run s = .error e t := by
  rw [run_callOver, EStateM.run_bind, hcall]

theorem run_callOver_of_ok {result : Value}
    (hcall : (callable.call h [.context (c.derive s.nextId item), item]).run
      { s with nextId := s.nextId + 1 } = .ok result t) :
    (c.callOver h item callable refuse).run s = (textOr refuse result).run t := by
  rw [run_callOver, EStateM.run_bind, hcall]

theorem run_textOr_of_refused {result : Value} (hnull : result.isNull = false)
    (htext : result.toText? = none) : (textOr refuse result).run t = .error (refuse result) t := by
  cases result with
  | null => cases hnull
  | str text => cases htext
  | _ => rfl

end

/-- A join over one element that cannot be called, and rendering the callback in the context rebound
to this element, make the same call: in the child context of the element, with the element, in the
same state. If the call fails, both fail like it; a text is the whole text of both, and null is the
empty one; and all else both refuse, in the state that the call left. The join refuses with a type
error. So does rendering, if the callable can be written; else the report is that it cannot be. -/
theorem join_over_one_is_rebinding (h : Host) (c : Context) (item callable : Value)
    (separator : String) (hitem : item.isCallable = false) (hcallable : callable.isCallable = true)
    (s : State) :
    (∀ e t, (callable.call h [.context (c.derive s.nextId item), item]).run
        { s with nextId := s.nextId + 1 } = .error e t →
      (c.join h (.list [item]) ⟨.str separator, callable, .null, .null, .shape .bare⟩).run s =
        .error e t ∧
      (c.rebind h [item] >>= fun d => d.render h [callable]).run s = .error e t) ∧
    ∀ result t, (callable.call h [.context (c.derive s.nextId item), item]).run
        { s with nextId := s.nextId + 1 } = .ok result t →
      (∀ text, result = .str text ∨ result = .null ∧ text = "" →
        (c.join h (.list [item]) ⟨.str separator, callable, .null, .null, .shape .bare⟩).run s =
          .ok text t ∧
        (c.rebind h [item] >>= fun d => d.render h [callable]).run s = .ok text t) ∧
      (result.isNull = false → result.toText? = none → ∃ e f,
        (c.join h (.list [item]) ⟨.str separator, callable, .null, .null, .shape .bare⟩).run s =
          .error e t ∧
        (c.rebind h [item] >>= fun d => d.render h [callable]).run s = .error f t ∧
        e.report = ("TypeError", "sequence item 0: expected str instance, " ++
          result.qualifiedTypeName ++ " found") ∧
        f.report = if callable.isWritable then
            ("TypeError", "template " ++ callable.source ++ " rendered " ++ result.typeName ++
              ", expected str")
          else ("ValueError", Failure.unwritable.message)) := by
  rw [join_single, render_rebind_single h c hitem hcallable]
  refine ⟨fun e t hcall => ⟨run_callOver_of_error hcall, run_callOver_of_error hcall⟩,
    fun result t hcall => ⟨fun text htext => ?_, fun hnull htext => ?_⟩⟩
  · rw [run_callOver_of_ok hcall, run_callOver_of_ok hcall]
    rcases htext with rfl | ⟨rfl, rfl⟩
    · exact ⟨rfl, rfl⟩
    · exact ⟨rfl, rfl⟩
  · rw [run_callOver_of_ok hcall, run_callOver_of_ok hcall, run_textOr_of_refused hnull htext,
      run_textOr_of_refused hnull htext]
    exact ⟨_, _, rfl, rfl, rfl, Failure.report_notText callable result⟩

/-- A text comes out of both as it is; a list of the data is refused by both. -/
theorem join_over_one_is_rebinding_of_logging :
    ((ofData 1 .null).join (.ofDepth 2) (.list [.str "x"])
        ⟨.str ", ", loggingLeaf, .null, .null, .shape .bare⟩).run ⟨#[], #[], 2, []⟩ =
      .ok "x" ⟨#["leaf"], #[], 3, []⟩ ∧
    ((ofData 1 .null).rebind (.ofDepth 2) [.str "x"] >>= fun d =>
        d.render (.ofDepth 2) [loggingLeaf]).run ⟨#[], #[], 2, []⟩ =
      .ok "x" ⟨#["leaf"], #[], 3, []⟩ ∧
    ∃ e f, ((ofData 1 .null).join (.ofDepth 2) (.list [.str "x"])
        ⟨.str ", ", listingLeaf, .null, .null, .shape .bare⟩).run ⟨#[], #[], 2, []⟩ =
      .error e ⟨#["leaf"], #[], 3, []⟩ ∧
    ((ofData 1 .null).rebind (.ofDepth 2) [.str "x"] >>= fun d =>
        d.render (.ofDepth 2) [listingLeaf]).run ⟨#[], #[], 2, []⟩ =
      .error f ⟨#["leaf"], #[], 3, []⟩ ∧
    e.report.1 = "TypeError" ∧ f.report.1 = "TypeError" := by
  have htext := ((join_over_one_is_rebinding (.ofDepth 2) (ofData 1 .null) (.str "x") loggingLeaf
    ", " rfl rfl ⟨#[], #[], 2, []⟩).2 (.str "x") ⟨#["leaf"], #[], 3, []⟩ rfl).1 "x" (.inl rfl)
  obtain ⟨e, f, he, hf, hereport, hfreport⟩ := ((join_over_one_is_rebinding (.ofDepth 2)
    (ofData 1 .null) (.str "x") listingLeaf ", " rfl rfl ⟨#[], #[], 2, []⟩).2
    (.list [.str "x"]) ⟨#["leaf"], #[], 3, []⟩ rfl).2 rfl rfl
  refine ⟨htext.1, htext.2, e, f, he, hf, congrArg Prod.fst hereport, ?_⟩
  rw [hfreport]
  rfl

/-- A callable with a bound integer that has too many digits to be written; it returns one. -/
def longApplied : Value := .applied 1 ⟨0, "f", none, .int 1, []⟩ [longLeaf]

/-- Both refuse the integer that the callable returns, in the same state, but rendering does so with
another kind of report. -/
theorem longApplied_is_refused_unnamed :
    ∃ e f t, ((ofData 2 (.str "d")).join (.ofDepth 1) (.list [.str "x"])
        ⟨.str ", ", longApplied, .null, .null, .shape .bare⟩).run ⟨#[], #[], 3, []⟩ =
      .error e t ∧
    ((ofData 2 (.str "d")).rebind (.ofDepth 1) [.str "x"] >>= fun d =>
        d.render (.ofDepth 1) [longApplied]).run ⟨#[], #[], 3, []⟩ = .error f t ∧
    (longApplied.call (.ofDepth 1) [.context ((ofData 2 (.str "d")).derive 3 (.str "x")),
        .str "x"]).run ⟨#[], #[], 4, []⟩ = .ok (.int 1) t ∧
    e.report.1 = "TypeError" ∧ f.report.1 ≠ "TypeError" := by
  rw [join_single, render_rebind_single _ _ rfl rfl]
  refine ⟨.notJoinableText 0 (.int 1), .notText longApplied (.int 1), ⟨#[], #[], 4, []⟩, rfl, rfl,
    rfl, rfl, ?_⟩
  have hlong : longApplied.isWritable = false := by
    have hbound : longLeaf.isWritable = false := Value.isWritable_eq_false_of_le (Nat.le_refl _)
    rw [longApplied, Value.isWritable, areWritable, hbound]
    rfl
  rw [Failure.report_notText, hlong, if_neg Bool.false_ne_true]
  decide

end Stencil.Context
