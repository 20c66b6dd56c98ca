import Stencil.Proofs.JoinRun
import Stencil.Script.Apply

/-!
# Lineages

A context is made from scratch, as a root, or derived from another one: by a join for one of its
entries, by a step of a rebinding, or explicitly. A lineage is a run of such steps, with the
contexts it passed through. What a context stores or finds out about its place, its depth, its
parents and its root, is what can be told from the data of these contexts.
-/

namespace Stencil.Context

/-- Contexts from which no other one can be reached upward. -/
inductive IsRoot : Context → Prop
  /-- One that is made without a parent. -/
  | made {data index name : Value} {c : Context} {s t : State}
      (hrun : (makeContext data .null index name).run s = .ok (.context c) t) : IsRoot c
  /-- The one in which templates are rendered against data. -/
  | applied (id : Nat) (data : Value) : IsRoot (ofData id data)

/-- One step from a context to another one. -/
inductive Derives (h : Host) (c : Context) : Context → Prop
  /-- The context is made for an entry that a join by position or by key comes to. -/
  | joined {items : Value} {mode : Mode} {spec : JoinSpec} {s t : State}
      {visited : List (Entry × Value)} {entry : Entry}
      (hreach : JoinCall.Reaches h ⟨c, items, mode, spec⟩ s visited entry t) :
      Derives h c (c.child t.nextId entry)
  /-- The context is what one selector, called or not, leads to. -/
  | rebound {selector : Value} {d : Context} {s t : State}
      (hrun : (c.rebindOnce h selector).run s = .ok d t) : Derives h c d
  /-- The context is made with a parent. -/
  | made {data index name : Value} {d : Context} {s t : State}
      (hrun : (makeContext data (.context c) index name).run s = .ok (.context d) t) :
      Derives h c d

/-- A run of steps from a root to a context, with the contexts it passed through, nearest first. -/
inductive Lineage (h : Host) (root : Context) : List Context → Context → Prop
  | root (hroot : IsRoot root) : Lineage h root [] root
  | step {passed : List Context} {c d : Context} (hc : Lineage h root passed c)
      (hd : Derives h c d) : Lineage h root (c :: passed) d

section

variable {h : Host} {root c d : Context} {passed : List Context}

/-- A root has no parent. -/
theorem IsRoot.eq_new (hroot : IsRoot c) :
    ∃ id data index name, c = new id data none index name := by
  cases hroot with
  | made hrun =>
    cases hrun
    exact ⟨_, _, _, _, rfl⟩
  | applied id data => exact ⟨id, data, _, _, rfl⟩

/-- Each step makes a context whose parent is the one before. -/
theorem Derives.eq_new (hd : Derives h c d) :
    ∃ id data index name, d = new id data (some c) index name := by
  cases hd with
  | joined hreach => exact ⟨_, _, _, _, rfl⟩
  | rebound hrun =>
    obtain ⟨data, u, -, hmade⟩ := Action.run_bind_eq_ok_iff.mp hrun
    cases hmade
    exact ⟨_, data, _, _, rfl⟩
  | made hrun =>
    cases hrun
    exact ⟨_, _, _, _, rfl⟩

/-- A rebinding goes as many steps as it has selectors. -/
theorem Lineage.rebind (hc : Lineage h root passed c) {selectors : List Value} {s t : State}
    (hrun : (c.rebind h selectors).run s = .ok d t) :
    ∃ more, more.length = selectors.length ∧ Lineage h root (more ++ passed) d := by
  induction selectors generalizing c passed s with
  | nil =>
    cases hrun
    exact ⟨[], rfl, hc⟩
  | cons selector selectors ih =>
    obtain ⟨e, u, hstep, hrest⟩ := Action.run_bind_eq_ok_iff.mp hrun
    obtain ⟨more, hlength, hd⟩ := ih (hc.step (.rebound hstep)) hrest
    exact ⟨more ++ [c], by simp [hlength], by simpa using hd⟩

theorem Lineage.depth_eq (hc : Lineage h root passed c) : c.depth = passed.length := by
  induction hc with
  | root hroot =>
    obtain ⟨id, data, index, name, rfl⟩ := hroot.eq_new
    rfl
  | step hc hd ih =>
    obtain ⟨id, data, index, name, rfl⟩ := hd.eq_new
    rw [depth_new_some, ih, List.length_cons]

theorem Lineage.parents_eq (hc : Lineage h root passed c) : c.parents = passed.map data := by
  induction hc with
  | root hroot =>
    obtain ⟨id, data, index, name, rfl⟩ := hroot.eq_new
    rfl
  | step hc hd ih =>
    obtain ⟨id, data, index, name, rfl⟩ := hd.eq_new
    rw [parents_new_some, ih, List.map_cons]

theorem Lineage.rootData_eq (hc : Lineage h root passed c) : c.rootData = root.data := by
  induction hc with
  | root hroot =>
    obtain ⟨id, data, index, name, rfl⟩ := hroot.eq_new
    rfl
  | step hc hd ih =>
    obtain ⟨id, data, index, name, rfl⟩ := hd.eq_new
    rw [rootData_new_some, ih]

/-- A lineage passed through contexts of the same root. -/
theorem Lineage.of_mem (hc : Lineage h root passed c) (hd : d ∈ passed) :
    ∃ before, Lineage h root before d := by
  induction hc with
  | root hroot => cases hd
  | step hc _ ih =>
    rcases List.mem_cons.mp hd with rfl | hd
    · exact ⟨_, hc⟩
    · exact ih hd

/-- The data of a lineage, from its end upward, ends in that of its root. -/
theorem Lineage.getLast?_data (hc : Lineage h root passed c) :
    ((c :: passed).map data).getLast? = some root.data := by
  induction hc with
  | root hroot => rfl
  | step hc hd ih => rw [List.map_cons, List.map_cons, List.getLast?_cons_cons, ← List.map_cons, ih]

/-- The data of the parent is the first of those above, or null at the root. -/
theorem parentData_eq (c : Context) : c.parentData = c.parents.head?.getD .null := by
  obtain ⟨id, data, parent, index, name, depth⟩ := c
  cases parent <;> rfl

end

/-- Whatever steps led to a context, its depth is their number and that of its parents; its parents
are the data of the contexts passed through; its parent is the first of them and its root the last
of its data and them, which is the root of all these contexts. As all of this is told by the data,
neither indices nor names play a part in it. A rebinding as a whole goes on with the lineage, by as
many steps as it has selectors. -/
theorem lineage_is_told_by_data {h : Host} {root c : Context} {passed : List Context}
    (hc : Lineage h root passed c) :
    c.depth = c.parents.length ∧ c.depth = passed.length ∧
    c.parents = passed.map data ∧
    c.parentData = c.parents.head?.getD .null ∧
    (c.data :: c.parents).getLast? = some c.rootData ∧
    (∀ d ∈ c :: passed, d.rootData = root.data) ∧
    (∀ (h' : Host) (root' c' : Context) (passed' : List Context), Lineage h' root' passed' c' →
      c'.data = c.data → passed'.map data = passed.map data →
      c'.depth = c.depth ∧ c'.parents = c.parents ∧ c'.parentData = c.parentData ∧
        c'.rootData = c.rootData) ∧
    ∀ (selectors : List Value) (s t : State) (d : Context),
      (c.rebind h selectors).run s = .ok d t →
        ∃ more, more.length = selectors.length ∧ Lineage h root (more ++ passed) d := by
  have hparents := hc.parents_eq
  have hlength : c.parents.length = passed.length := by rw [hparents, List.length_map]
  refine ⟨hc.depth_eq.trans hlength.symm, hc.depth_eq, hparents, parentData_eq c, ?_, ?_, ?_,
    fun selectors s t d hrun => hc.rebind hrun⟩
  · rw [hc.rootData_eq, hparents]
    exact hc.getLast?_data
  · intro d hd
    rcases List.mem_cons.mp hd with rfl | hd
    · exact hc.rootData_eq
    · obtain ⟨before, hbefore⟩ := hc.of_mem hd
      exact hbefore.rootData_eq
  · intro h' root' c' passed' hc' hdata hpassed
    have hsame : c'.parents = c.parents := by rw [hc'.parents_eq, hparents, hpassed]
    refine ⟨?_, hsame, ?_, ?_⟩
    · have hsteps := congrArg List.length hpassed
      rw [List.length_map, List.length_map] at hsteps
      rw [hc'.depth_eq, hc.depth_eq, hsteps]
    · rw [parentData_eq, parentData_eq, hsame]
    · have hlast := hc.getLast?_data
      rw [List.map_cons, ← hdata, ← hpassed, ← List.map_cons, hc'.getLast?_data] at hlast
      rw [hc'.rootData_eq, hc.rootData_eq, Option.some.inj hlast]

/-- The child that a join makes of a root for its only entry. -/
def onlyChild : Context := (ofData 0 (.list [.str "a"])).child 1 ⟨0, "0", .str "a"⟩

/-- A context made explicitly below a rebinding of the child. -/
def greatGrandchild : Context :=
  new 3 (.str "b") (some (onlyChild.derive 2 (.int 5))) (.int 7) (.str "x")

/-- Three steps, one of each kind, lead to depth three and to three parents, and a rebinding with
two selectors goes two steps further. -/
theorem lineage_is_told_by_data_of_three :
    greatGrandchild.depth = 3 ∧
      greatGrandchild.parents = [.int 5, .str "a", .list [.str "a"]] ∧
      ∃ more, more.length = 2 ∧ Lineage (Host.ofDepth 1) (ofData 0 (.list [.str "a"]))
        (more ++ [onlyChild.derive 2 (.int 5), onlyChild, ofData 0 (.list [.str "a"])])
        ((greatGrandchild.derive 4 (.int 6)).derive 5 .null) := by
  have hreach : JoinCall.Reaches (Host.ofDepth 1)
      ⟨ofData 0 (.list [.str "a"]), .list [.str "a"], .sequence,
        ⟨.null, .null, .null, .null, .null⟩⟩
      ⟨#[], #[], 1, []⟩ [] ⟨0, "0", .str "a"⟩ ⟨#[], #[], 1, []⟩ :=
    ⟨_, .nil 0 _, rfl⟩
  have hrebound : (onlyChild.rebindOnce (Host.ofDepth 1) (.int 5)).run ⟨#[], #[], 2, []⟩ =
      .ok (onlyChild.derive 2 (.int 5)) ⟨#[], #[], 3, []⟩ := rfl
  have hmade : (makeContext (.str "b") (.context (onlyChild.derive 2 (.int 5))) (.int 7)
      (.str "x")).run ⟨#[], #[], 3, []⟩ = .ok (.context greatGrandchild) ⟨#[], #[], 4, []⟩ := rfl
  have hroot : Lineage (Host.ofDepth 1) (ofData 0 (.list [.str "a"])) [] _ :=
    .root (.applied 0 _)
  obtain ⟨-, hdepth, hparents, -, -, -, -, hrebind⟩ := lineage_is_told_by_data
    (((hroot.step (.joined hreach)).step (.rebound hrebound)).step (.made hmade))
  exact ⟨hdepth, hparents, hrebind [.int 6, .null] ⟨#[], #[], 4, []⟩ ⟨#[], #[], 6, []⟩ _ rfl⟩

end Stencil.Context
