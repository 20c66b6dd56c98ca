import Stencil.Proofs.Address

/-!
# Runs of rebindings

A rebinding takes its selectors in order, and `Context.Rebinds` tells what becomes of each. One that
can be called is called once, with the data of the step before and nothing else, and what it gives
is the new data, even where that could be called in turn; any other is the new data itself. So a
rebinding can be broken off after any selector and taken up again, and where it leads is told by the
data of its steps.
-/

namespace Stencil

/-- In a state, a selector comes to new data, given that of the step before. -/
inductive Selects (h : Host) (data : Value) : Value → State → Value → State → Prop
  /-- The selector is called once, and the new data is what the call gives. -/
  | called {selector result : Value} {s t : State} (hselector : selector.isCallable = true)
      (hcall : (selector.call h [data]).run s = .ok result t) :
      Selects h data selector s result t
  /-- The selector cannot be called and is the new data. -/
  | taken {selector : Value} {s : State} (hselector : selector.isCallable = false) :
      Selects h data selector s selector s

namespace Context

/-- From a context and a state, selectors are taken one by one, each beside the data that it comes
to. A context for this data is derived before the next one is taken. -/
inductive Rebinds (h : Host) : Context → State → List (Value × Value) → Context → State → Prop
  | nil (c : Context) (s : State) : Rebinds h c s [] c s
  | cons {c d : Context} {s t u : State} {selector result : Value} {taken : List (Value × Value)}
      (hselects : Selects h c.data selector s result t)
      (hrest : Rebinds h (c.derive t.nextId result) { t with nextId := t.nextId + 1 } taken d u) :
      Rebinds h c s ((selector, result) :: taken) d u

section

variable {h : Host} {c d : Context} {s t : State} {selector result : Value}
  {selectors : List Value} {taken : List (Value × Value)}

theorem run_resolve_eq_ok_iff {data : Value} :
    (selector.resolve h [data]).run s = .ok result t ↔ Selects h data selector s result t := by
  cases hselector : selector.isCallable with
  | true =>
    rw [Value.resolve, if_pos hselector]
    constructor
    · exact .called hselector
    · intro hselects
      cases hselects with
      | called _ hcall => exact hcall
      | taken hnot => cases hselector.symm.trans hnot
  | false =>
    rw [Value.resolve_of_not_isCallable hselector, Action.run_pure_eq_ok_iff]
    constructor
    · rintro ⟨rfl, rfl⟩
      exact .taken hselector
    · intro hselects
      cases hselects with
      | called hcallable => cases hselector.symm.trans hcallable
      | taken => exact ⟨rfl, rfl⟩

/-- A step makes the child context with the data that its selector comes to. -/
theorem run_rebindOnce_eq_ok_iff :
    (c.rebindOnce h selector).run s = .ok d t ↔
      ∃ result u, Selects h c.data selector s result u ∧ d = c.derive u.nextId result ∧
        t = { u with nextId := u.nextId + 1 } := by
  rw [rebindOnce, Action.run_bind_eq_ok_iff]
  refine exists_congr fun result => exists_congr fun u => and_congr run_resolve_eq_ok_iff ?_
  constructor
  · rintro ⟨⟩
    exact ⟨rfl, rfl⟩
  · rintro ⟨rfl, rfl⟩
    rfl

/-- A rebinding leads where its selectors do, taken one by one. -/
theorem run_rebind_eq_ok_iff :
    (c.rebind h selectors).run s = .ok d t ↔
      ∃ taken, taken.map (·.1) = selectors ∧ c.Rebinds h s taken d t := by
  induction selectors generalizing c s with
  | nil =>
    constructor
    · intro hrun
      obtain ⟨rfl, rfl⟩ := Action.run_pure_eq_ok_iff.mp hrun
      exact ⟨[], rfl, .nil _ _⟩
    · rintro ⟨taken, htaken, hrebinds⟩
      obtain rfl := List.map_eq_nil_iff.mp htaken
      cases hrebinds
      exact Action.run_pure_eq_ok_iff.mpr ⟨rfl, rfl⟩
  | cons selector selectors ih =>
    rw [rebind, List.foldlM_cons, Action.run_bind_eq_ok_iff]
    constructor
    · rintro ⟨e, u, hstep, hrest⟩
      obtain ⟨result, v, hselects, rfl, rfl⟩ := run_rebindOnce_eq_ok_iff.mp hstep
      obtain ⟨taken, rfl, hrebinds⟩ := ih.mp hrest
      exact ⟨(selector, result) :: taken, rfl, .cons hselects hrebinds⟩
    · rintro ⟨taken, htaken, hrebinds⟩
      cases hrebinds with
      | nil => cases htaken
      | cons hselects hrebinds =>
        obtain ⟨rfl, rfl⟩ := List.cons_eq_cons.mp htaken
        exact ⟨_, _, run_rebindOnce_eq_ok_iff.mpr ⟨_, _, hselects, rfl, rfl⟩,
          ih.mpr ⟨_, rfl, hrebinds⟩⟩

/-- A rebinding with more selectors goes on from where the first ones lead. -/
theorem rebind_append (h : Host) (c : Context) (selectors others : List Value) :
    c.rebind h (selectors ++ others) = c.rebind h selectors >>= fun d => d.rebind h others :=
  List.foldlM_append

theorem upward_derive (id : Nat) (c : Context) (data : Value) :
    (c.derive id data).upward = c.derive id data :: c.upward := rfl

/-- The data from a context upward are its own and those of its parents. -/
theorem map_data_upward : ∀ c : Context, c.upward.map data = c.data :: c.parents
  | ⟨_, _, none, _, _, _⟩ => rfl
  | ⟨_, data, some p, _, _, _⟩ => congrArg (data :: ·) p.map_data_upward

/-- Above the context that selectors lead to stand one context for each of them, with its data, and
then those from the first one upward. -/
theorem Rebinds.exists_made (hd : c.Rebinds h s taken d t) :
    ∃ made, d.upward = made ++ c.upward ∧ made.map data = (taken.map (·.2)).reverse ∧
      ∀ e ∈ made, e.index = .int 0 ∧ e.name = .str "0" := by
  induction hd with
  | nil c s => exact ⟨[], rfl, rfl, fun _ he => nomatch he⟩
  | @cons c d s t u selector result taken _ _ ih =>
    obtain ⟨made, hupward, hdata, hplace⟩ := ih
    refine ⟨made ++ [c.derive t.nextId result], ?_, ?_, fun e he => ?_⟩
    · rw [hupward, upward_derive, List.append_assoc, List.singleton_append]
    · show _ = (result :: taken.map (·.2)).reverse
      rw [List.map_append, hdata, List.reverse_cons]
      rfl
    · rcases List.mem_append.mp he with he | he
      · exact hplace e he
      · obtain rfl := List.mem_singleton.mp he
        exact ⟨rfl, rfl⟩

/-- The data of the steps, the last one first, stand in front of the data that was rebound. -/
theorem Rebinds.data_cons_parents (hd : c.Rebinds h s taken d t) :
    d.data :: d.parents = (taken.map (·.2)).reverse ++ c.data :: c.parents := by
  obtain ⟨made, hupward, hdata, -⟩ := hd.exists_made
  rw [← map_data_upward, hupward, List.map_append, hdata, map_data_upward]

theorem Rebinds.depth_eq (hd : c.Rebinds h s taken d t) : d.depth = c.depth + taken.length := by
  induction hd with
  | nil => rfl
  | cons _ _ ih =>
    rw [ih, List.length_cons, derive, depth_new_some, Nat.add_assoc, Nat.add_comm 1]

theorem Rebinds.rootData_eq (hd : c.Rebinds h s taken d t) : d.rootData = c.rootData := by
  induction hd with
  | nil => rfl
  | cons _ _ ih => rw [ih, derive, rootData_new_some]

end

/-- A rebinding is the rebinding by its first selectors and then, from the context these lead to, by
the others. It fails where the call of a selector does, those before it having been taken and none
behind it, and else it leads where its selectors do, taken one by one: the last data is that of the
context, the data of the steps before and of the first context are nearest above it, the depth grows
by the number of selectors, and the root stays. All contexts made on the way are in first
position. -/
theorem selectors_are_taken_in_order (h : Host) (c : Context) :
    (∀ selectors others, c.rebind h (selectors ++ others) =
      c.rebind h selectors >>= fun d => d.rebind h others) ∧
    (∀ selectors s e t, (c.rebind h selectors).run s = .error e t ↔
      ∃ taken selector after d u, selectors = taken.map (·.1) ++ selector :: after ∧
        c.Rebinds h s taken d u ∧ selector.isCallable = true ∧
        (selector.call h [d.data]).run u = .error e t) ∧
    (∀ selectors s d t, (c.rebind h selectors).run s = .ok d t ↔
      ∃ taken, taken.map (·.1) = selectors ∧ c.Rebinds h s taken d t) ∧
    ∀ s taken d t, c.Rebinds h s taken d t →
      (∀ before last, taken.map (·.2) = before ++ [last] →
        d.data = last ∧ d.parents = before.reverse ++ c.data :: c.parents) ∧
      d.depth = c.depth + taken.length ∧ d.rootData = c.rootData ∧
      ∃ made, d.upward = made ++ c.upward ∧ made.map data = (taken.map (·.2)).reverse ∧
        ∀ e ∈ made, e.index = .int 0 ∧ e.name = .str "0" := by
  refine ⟨rebind_append h c, fun selectors s e t => ?error, fun _ _ _ _ => run_rebind_eq_ok_iff,
    fun s taken d t hd => ⟨fun before last htaken => ?data, hd.depth_eq, hd.rootData_eq,
      hd.exists_made⟩⟩
  case error =>
    simp only [run_rebind_eq_error_iff, run_rebind_eq_ok_iff]
    constructor
    · rintro ⟨_, selector, after, d, u, rfl, ⟨taken, rfl, hd⟩, hselector, hcall⟩
      exact ⟨taken, selector, after, d, u, rfl, hd, hselector, hcall⟩
    · rintro ⟨taken, selector, after, d, u, rfl, hd, hselector, hcall⟩
      exact ⟨_, selector, after, d, u, rfl, ⟨taken, rfl, hd⟩, hselector, hcall⟩
  case data =>
    have hdata := hd.data_cons_parents
    rw [htaken, List.reverse_append, List.reverse_singleton, List.singleton_append,
      List.cons_append] at hdata
    exact List.cons_eq_cons.mp hdata

/-- A selector that logs a mark and gives back the data. -/
def loggingSelector : Value :=
  .function ⟨0, "same", none, .apply .last [.one (.apply .log [.one (.str "same")]),
    .one (.argument 0 0)], []⟩

/-- The selector is called once, though it gives data that can be called; a text is taken as it
is. -/
theorem selectors_are_taken_in_order_of_callable :
    ∃ d, ((ofData 1 loggingSelector).rebind (.ofDepth 2) [loggingSelector, .str "x"]).run
        ⟨#[], #[], 2, []⟩ = .ok d ⟨#["same"], #[], 4, []⟩ ∧
      d.data = .str "x" ∧ d.parents = [loggingSelector, loggingSelector] ∧ d.depth = 2 ∧
      d.rootData = loggingSelector := by
  obtain ⟨-, -, hrun, hleads⟩ :=
    selectors_are_taken_in_order (.ofDepth 2) (ofData 1 loggingSelector)
  have htaken : (ofData 1 loggingSelector).Rebinds (.ofDepth 2) ⟨#[], #[], 2, []⟩
      [(loggingSelector, loggingSelector), (.str "x", .str "x")]
      (((ofData 1 loggingSelector).derive 2 loggingSelector).derive 3 (.str "x"))
      ⟨#["same"], #[], 4, []⟩ :=
    .cons (.called rfl rfl) (.cons (.taken rfl) (.nil _ _))
  obtain ⟨hdata, hdepth, hroot, -⟩ := hleads _ _ _ _ htaken
  obtain ⟨hlast, hparents⟩ := hdata [loggingSelector] (.str "x") rfl
  exact ⟨_, (hrun _ _ _ _).mpr ⟨_, rfl, htaken⟩, hlast, hparents, hdepth, hroot⟩

end Context

end Stencil
