import Stencil.Proofs.Trace

/-!
# Delivery of one-shot elements

A join over a one-shot iterator takes an element only when its callback is about to be called for
it. Whatever stops the join, the iterator has the elements left that no callback was called for, so
later joins go on where an earlier one stopped: over any number of joins each element is delivered
once and in order. Only an element that fails takes those behind it along.
-/

namespace Stencil

/-- An iterator exists, has the given elements left, and is not evaluating one. -/
structure State.HasLeft (s : State) (id : Nat) (elements : List Suspended) : Prop where
  /-- The iterator exists. -/
  size : id < s.iterators.size
  /-- The elements that are left of it. -/
  iterator : s.iterator id = .idle elements

namespace State.HasLeft

variable {h : Host} {id : Nat} {s t u : State} {elements left : List Suspended}

/-- What an iterator has left is told by the state. -/
theorem unique (hs : s.HasLeft id elements) (hs' : s.HasLeft id left) : elements = left :=
  Iterator.idle.inj (hs.iterator.symm.trans hs'.iterator)

/-- An advance that leaves an iterator alone leaves it its elements. -/
theorem of_iterator_eq (hs : s.HasLeft id elements) (hadvances : s.Advances t)
    (heq : t.iterator id = s.iterator id) : t.HasLeft id elements :=
  ⟨Nat.lt_of_lt_of_le hs.size hadvances.size, heq.trans hs.iterator⟩

/-- An exhausted iterator stays exhausted. -/
theorem nil_of_advances (hs : s.HasLeft id []) (hadvances : s.Advances t) : t.HasLeft id [] := by
  have ha := hadvances.iterator id hs.size
  rw [hs.iterator] at ha
  obtain ⟨left, ht, hleft⟩ := ha
  rw [List.suffix_nil.mp hleft] at ht
  exact ⟨Nat.lt_of_lt_of_le hs.size hadvances.size, ht⟩

/-- An iterator that was held is given back with the elements that it shall have. -/
theorem release (hs : s.HasLeft id elements) (hadvances : (s.setIterator id .running).Advances u)
    (left : List Suspended) : (u.setIterator id (.idle left)).HasLeft id left := by
  have hu : id < u.iterators.size :=
    Nat.lt_of_lt_of_le (by simpa [State.setIterator] using hs.size) hadvances.size
  exact ⟨by simpa [State.setIterator] using hu, State.iterator_setIterator_self u hu _⟩

end State.HasLeft

/-- The next of the elements that an iterator has left fails, and a failure comes out of it. -/
def NextFails (h : Host) (id : Nat) (elements : List Suspended) (e : Failure) : Prop :=
  ∃ (element : Suspended) (behind : List Suspended) (s u : State),
    elements = element :: behind ∧ s.HasLeft id elements ∧
      (h.force element).iterated.run (s.setIterator id .running) = .error e u

namespace JoinCall

/-- Visits get the elements of an iterator. Each gets the value of the element that is the first
left when the visit's entry is had, and it starts with those behind this one left. The rest of the
elements goes to no visit. -/
inductive Delivers (h : Host) (id : Nat) :
    List Suspended → List Visit → List Suspended → Prop
  | nil (rest : List Suspended) : Delivers h id rest [] rest
  | cons {element : Suspended} {behind rest : List Suspended} {visit : Visit} {visits : List Visit}
      {s u : State} (hs : s.HasLeft id (element :: behind))
      (hforce : (h.force element).run (s.setIterator id .running) = .ok visit.entry.item u)
      (hbefore : visit.before = u.setIterator id (.idle behind))
      (hrest : Delivers h id behind visits rest) :
      Delivers h id (element :: behind) (visit :: visits) rest

/-- The callback that is called at a visit takes no element of an iterator. -/
def LeavesAlone (h : Host) (id : Nat) (j : JoinCall) (v : Visit) : Prop :=
  ((j.visit h v.entry).stateAfter v.before).iterator id = v.before.iterator id

/-- Visits are numbered from zero, and labelled with their numbers. -/
def Numbered (visits : List Visit) : Prop :=
  ∀ (k : Nat) (v : Visit), visits[k]? = some v → v.entry = .positional k v.entry.item

/-- What an iterator has left after a join, where the given elements went to no visit: none when the
entries came to their end, none when the next element failed, and all of them when a visit did. -/
def Ending.Leaves (h : Host) (id : Nat) (rest : List Suspended) (after : State) : Ending → Prop
  | .exhausted _ => rest = [] ∧ after.HasLeft id []
  | .entryFails e _ => NextFails h id rest e ∧ after.HasLeft id []
  | .visitFails _ _ _ => after.HasLeft id rest

/-- The state in which a walk ends. -/
def Ending.state : Ending → State
  | .exhausted t | .entryFails _ t | .visitFails _ _ t => t

/-- Joins over one iterator, one after the other, whatever comes of each, with the visits of each.
Their callbacks take no elements of it, and between the joins it is left alone. -/
inductive Joins (h : Host) (id : Nat) : State → List (List Visit) → State → Prop
  | nil (s : State) : Joins h id s [] s
  | cons {c : Context} {spec : JoinSpec} {s t last : State} {visited : List (Visit × Value)}
      {ending : Ending} {batches : List (List Visit)}
      (htrace : Trace h (overIterator c id spec) 0 s visited ending)
      (halone : ∀ v ∈ calls visited ending, LeavesAlone h id (overIterator c id spec) v)
      (hadvances : ((c.join h (.iterator id) spec).stateAfter s).Advances t)
      (hbetween : t.iterator id = ((c.join h (.iterator id) spec).stateAfter s).iterator id)
      (hrest : Joins h id t batches last) :
      Joins h id s (calls visited ending :: batches) last

section

variable {h : Host} {id : Nat} {j : JoinCall} {i : Nat} {s t : State}
  {elements rest : List Suspended} {visits : List Visit} {visited : List (Visit × Value)}
  {ending : Ending}

/-- The rest is what is left when every visit has got one element. -/
theorem Delivers.rest_eq (hdelivers : Delivers h id elements visits rest) :
    rest = elements.drop visits.length := by
  induction hdelivers with
  | nil rest => rfl
  | cons _ _ _ _ ih => exact ih

/-- The rest may go to further visits. -/
theorem Delivers.append {visits' : List Visit} {rest' : List Suspended}
    (hfirst : Delivers h id elements visits rest) (hnext : Delivers h id rest visits' rest') :
    Delivers h id elements (visits ++ visits') rest' := by
  induction hfirst with
  | nil rest => exact hnext
  | cons hs hforce hbefore _ ih => exact .cons hs hforce hbefore (ih hnext)

theorem Delivers.eq_nil (hdelivers : Delivers h id [] visits rest) : visits = [] ∧ rest = [] := by
  cases hdelivers with
  | nil => exact ⟨rfl, rfl⟩

/-- What is left before a visit that leaves the iterator alone is left behind it. -/
theorem LeavesAlone.hasLeft (hh : h.Lawful) {v : Visit} (halone : j.LeavesAlone h id v)
    (hleft : v.before.HasLeft id elements) :
    ((j.visit h v.entry).stateAfter v.before).HasLeft id elements :=
  hleft.of_iterator_eq (j.context.visit_advances hh _ _ v.entry v.before) halone

/-- The entries of a join over an iterator are drawn from it. -/
theorem ask_iterator (hmode : j.mode = .sequence) (hitems : j.items = .iterator id) (i : Nat) :
    j.ask h i = Option.map (Entry.positional i) <$> Action.draw h id := by
  simp only [ask, hmode, hitems, map_eq_pure_bind]
  rfl

section

variable (hmode : j.mode = .sequence) (hitems : j.items = .iterator id)
include hmode hitems

/-- An entry is numbered with its place, and its element was drawn. -/
theorem draw_of_ask_eq_some {entry : Entry} (hask : (j.ask h i).run s = .ok (some entry) t) :
    entry = .positional i entry.item ∧
      (Action.draw h id).run s = .ok (some entry.item) t := by
  rw [ask_iterator hmode hitems, Action.run_map_eq_ok_iff] at hask
  obtain ⟨item?, hdraw, hentry⟩ := hask
  obtain ⟨item, rfl, rfl⟩ := Option.map_eq_some_iff.mp hentry
  exact ⟨rfl, hdraw⟩

/-- The visits of a join are numbered with the places of their entries. -/
theorem Trace.entry_eq (htrace : j.Trace h i s visited ending) (k : Nat) (v : Visit)
    (hv : (calls visited ending)[k]? = some v) : v.entry = .positional (i + k) v.entry.item := by
  obtain ⟨u, -, hask⟩ := htrace.reaches hv
  exact (draw_of_ask_eq_some hmode hitems hask).1

section

variable (hh : h.Lawful)
include hh

/-- An entry that is had is the value of the first element that is left, and those behind it are
left for the visit. -/
theorem delivers_of_ask_eq_some (hs : s.HasLeft id elements) {entry : Entry}
    (hask : (j.ask h i).run s = .ok (some entry) t) :
    ∃ behind, Delivers h id elements [⟨entry, t⟩] behind ∧ t.HasLeft id behind := by
  have hdraw := (draw_of_ask_eq_some hmode hitems hask).2
  obtain ⟨element, behind, u, hidle, hforce, rfl⟩ := Action.run_draw_eq_ok_some_iff.mp hdraw
  obtain rfl := hs.unique ⟨hs.size, hidle⟩
  have hadvances := (hh.force element).of_ok hforce
  exact ⟨behind, .cons hs hforce rfl (.nil behind), hs.release hadvances behind⟩

/-- A walk over an iterator delivers its elements, one to every visit, and leaves the others where
it ends. -/
theorem Trace.delivers (htrace : j.Trace h i s visited ending) (hs : s.HasLeft id elements)
    (halone : ∀ v ∈ calls visited ending, j.LeavesAlone h id v) :
    ∃ rest, Delivers h id elements (calls visited ending) rest ∧
      ending.Leaves h id rest ending.state := by
  induction htrace generalizing elements with
  | exhausted hask =>
    rw [ask_iterator hmode hitems, Action.run_map_eq_ok_iff] at hask
    obtain ⟨item?, hdraw, hnone⟩ := hask
    obtain rfl := Option.map_eq_none_iff.mp hnone
    obtain ⟨hidle, rfl⟩ := Action.run_draw_eq_ok_none_iff.mp hdraw
    obtain rfl := hs.unique ⟨hs.size, hidle⟩
    exact ⟨[], .nil [], rfl, hs⟩
  | entryFails hask =>
    rw [ask_iterator hmode hitems, Action.run_map_eq_error_iff] at hask
    rcases Action.run_draw_eq_error_iff.mp hask with ⟨hrunning, -⟩ |
      ⟨element, behind, u, hidle, hforce, rfl⟩
    · cases hs.iterator.symm.trans hrunning
    · obtain rfl := hs.unique ⟨hs.size, hidle⟩
      have hadvances := (hh.force element).iterated.of_error hforce
      exact ⟨_, .nil _, ⟨element, behind, _, u, rfl, hs, hforce⟩, hs.release hadvances []⟩
  | @visitFails i s t u entry e hask hvisit =>
    obtain ⟨behind, hdelivers, ht⟩ := delivers_of_ask_eq_some hmode hitems hh hs hask
    have hu := (halone ⟨entry, t⟩ (.head _)).hasLeft hh ht
    rw [Action.stateAfter_of_error hvisit] at hu
    exact ⟨behind, hdelivers, hu⟩
  | @visit i s t u entry result visited ending hask hvisit _ ih =>
    rw [calls_cons] at halone ⊢
    obtain ⟨behind, hdelivers, ht⟩ := delivers_of_ask_eq_some hmode hitems hh hs hask
    have hu := (halone ⟨entry, t⟩ (.head _)).hasLeft hh ht
    rw [Action.stateAfter_of_ok hvisit] at hu
    obtain ⟨rest, hrest, hleaves⟩ := ih hu fun v hv => halone v (.tail _ hv)
    exact ⟨rest, hdelivers.append hrest, hleaves⟩

end

end

/-- What is left where the walk ends is left after the join. -/
theorem Ending.Leaves.of_outcome (hh : h.Lawful) {results : List Value}
    (hleaves : ending.Leaves h id rest ending.state) {a : Action String}
    (hrun : a.run s = ending.outcome h j results) : ending.Leaves h id rest (a.stateAfter s) := by
  cases ending with
  | exhausted t =>
    have hafter : a.stateAfter s = (j.context.assemble h j.spec results).stateAfter t := by
      simp only [Action.stateAfter, hrun, outcome]
    rw [hafter]
    exact ⟨hleaves.1, hleaves.2.nil_of_advances (j.context.assemble_advances hh j.spec results t)⟩
  | entryFails e t | visitFails v e t =>
    rw [Action.stateAfter_of_error hrun]
    exact hleaves

/-- A join over an iterator delivers its elements and leaves those that went to no visit. -/
theorem Trace.join_delivers (hh : h.Lawful) {c : Context} {spec : JoinSpec}
    (htrace : Trace h (overIterator c id spec) 0 s visited ending) (hs : s.HasLeft id elements)
    (halone : ∀ v ∈ calls visited ending, LeavesAlone h id (overIterator c id spec) v) :
    Numbered (calls visited ending) ∧ ∃ rest, Delivers h id elements (calls visited ending) rest ∧
      ending.Leaves h id rest ((c.join h (.iterator id) spec).stateAfter s) := by
  have hnumbered : Numbered (calls visited ending) := fun k v hv => by
    have hentry := htrace.entry_eq rfl rfl k v hv
    rwa [Nat.zero_add] at hentry
  obtain ⟨rest, hdelivers, hleaves⟩ := htrace.delivers rfl rfl hh hs halone
  exact ⟨hnumbered, rest, hdelivers, hleaves.of_outcome hh (htrace.run_eq hh rfl)⟩

/-- An exhausted iterator has nothing for a join to visit. -/
theorem trace_of_hasLeft_nil (hs : s.HasLeft id []) (c : Context) (spec : JoinSpec) :
    Trace h (overIterator c id spec) 0 s [] (.exhausted s) := by
  refine .exhausted ?_
  rw [ask_iterator rfl rfl, Action.run_map_eq_ok_iff]
  exact ⟨none, Action.run_draw_eq_ok_none_iff.mpr ⟨hs.iterator, rfl⟩, rfl⟩

/-- Over any number of joins the elements are delivered in order, up to one that fails. -/
theorem Joins.delivers (hh : h.Lawful) {batches : List (List Visit)} {last : State}
    (hjoins : Joins h id s batches last) (hs : s.HasLeft id elements) :
    (∀ visits ∈ batches, Numbered visits) ∧ ∃ rest, Delivers h id elements batches.flatten rest ∧
      (last.HasLeft id rest ∨ (∃ e, NextFails h id rest e) ∧ last.HasLeft id []) := by
  induction hjoins generalizing elements with
  | nil s => exact ⟨List.forall_mem_nil _, elements, .nil elements, .inl hs⟩
  | @cons c spec s t last visited ending batches htrace halone hadvances hbetween _ ih =>
    obtain ⟨hnumbered, rest, hdelivers, hleaves⟩ := htrace.join_delivers hh hs halone
    -- Either the rest is still there for the joins that follow, or there is nothing more for them.
    have hleft : t.HasLeft id rest ∨ (∃ e, NextFails h id rest e) ∧ t.HasLeft id [] := by
      cases ending with
      | exhausted u =>
        obtain ⟨rfl, hleft⟩ := hleaves
        exact .inl (hleft.of_iterator_eq hadvances hbetween)
      | entryFails e u => exact .inr ⟨⟨e, hleaves.1⟩, hleaves.2.nil_of_advances hadvances⟩
      | visitFails v e u => exact .inl (hleaves.of_iterator_eq hadvances hbetween)
    rcases hleft with hleft | ⟨hfails, hleft⟩
    · obtain ⟨hothers, last', hrest, hend⟩ := ih hleft
      exact ⟨List.forall_mem_cons.mpr ⟨hnumbered, hothers⟩, last', hdelivers.append hrest, hend⟩
    · obtain ⟨hothers, last', hrest, hend⟩ := ih hleft
      obtain ⟨hnone, rfl⟩ := hrest.eq_nil
      refine ⟨List.forall_mem_cons.mpr ⟨hnumbered, hothers⟩, rest, ?_, .inr ⟨hfails, ?_⟩⟩
      · rw [List.flatten_cons, hnone, List.append_nil]
        exact hdelivers
      · rcases hend with hnil | ⟨-, hnil⟩
        · exact hnil
        · exact hnil

end

end JoinCall

open JoinCall in
/-- A join over a one-shot iterator calls its callback for the elements that are left, in order and
numbered from zero. When a call fails, the elements behind the one it was made for are left; when an
element fails, the callback was called for those before it, and none is left; and none is left when
the entries come to their end, whatever becomes of results, opening and closing. Hence over any
number of such joins each element is delivered once, and none is passed over. Joins over an
exhausted iterator are empty, and without effect. -/
theorem joins_deliver_each_element_once {h : Host} (hh : h.Lawful) {id : Nat}
    {elements : List Suspended} {s : State} (hs : s.HasLeft id elements) :
    (∀ (c : Context) (spec : JoinSpec),
      c.join h (.iterator id) spec = c.joinSequence h (.iterator id) spec ∧
      ∃ visited ending, Trace h (overIterator c id spec) 0 s visited ending ∧
        (c.join h (.iterator id) spec).run s =
          ending.outcome h (overIterator c id spec) (results visited) ∧
        ((∀ v ∈ calls visited ending, LeavesAlone h id (overIterator c id spec) v) →
          Numbered (calls visited ending) ∧
          Delivers h id elements (calls visited ending)
            (elements.drop (calls visited ending).length) ∧
          ending.Leaves h id (elements.drop (calls visited ending).length)
            ((c.join h (.iterator id) spec).stateAfter s))) ∧
    (∀ (batches : List (List Visit)) (last : State), Joins h id s batches last →
      (∀ visits ∈ batches, Numbered visits) ∧
      Delivers h id elements batches.flatten (elements.drop batches.flatten.length) ∧
      (last.HasLeft id (elements.drop batches.flatten.length) ∨
        (∃ e, NextFails h id (elements.drop batches.flatten.length) e) ∧ last.HasLeft id [])) ∧
    ∀ (c : Context) (spec : JoinSpec) (u : State), u.HasLeft id [] →
      Trace h (overIterator c id spec) 0 u [] (.exhausted u) ∧
        (c.join h (.iterator id) spec).run u = .ok "" u := by
  refine ⟨fun c spec => ⟨rfl, ?single⟩, fun batches last hjoins => ?several,
    fun c spec u hu => ?none⟩
  case single =>
    obtain ⟨visited, ending, htrace, hrun⟩ := exists_trace (j := overIterator c id spec) hh rfl s
    refine ⟨visited, ending, htrace, hrun, fun halone => ?_⟩
    obtain ⟨hnumbered, rest, hdelivers, hleaves⟩ := htrace.join_delivers hh hs halone
    obtain rfl := hdelivers.rest_eq
    exact ⟨hnumbered, hdelivers, hleaves⟩
  case several =>
    obtain ⟨hnumbered, rest, hdelivers, hend⟩ := hjoins.delivers hh hs
    obtain rfl := hdelivers.rest_eq
    exact ⟨hnumbered, hdelivers, hend⟩
  case none =>
    have htrace : Trace h (overIterator c id spec) 0 u [] (.exhausted u) :=
      trace_of_hasLeft_nil hu c spec
    exact ⟨htrace, htrace.run_eq hh rfl⟩

/-- The parts of a join whose results cannot be separated. -/
def inseparableSpec (callback : Value) : JoinSpec :=
  ⟨.bytes [], callback, .str "<", .str ">", .null⟩

/-- Three elements that log their texts. -/
def threeElements : List Suspended :=
  ["a", "b", "c"].map loggedElement

open JoinCall in
/-- A join that fails in its first call takes one of three elements, the next one gets the other two
and fails when it puts them together, and the last one finds nothing. -/
theorem joins_deliver_each_element_once_of_three :
    ∃ batches, Joins (.ofDepth 2) 0 (iteratorState threeElements #[] 1) batches
        (iteratorState [] #["a", "b", "item", "c", "item"] 4) ∧
      Delivers (.ofDepth 2) 0 threeElements batches.flatten [] ∧
      batches.map (·.map fun v => (v.entry.index, v.before.log)) =
        [[(0, #["a"])], [(0, #["a", "b"]), (1, #["a", "b", "item", "c"])], []] := by
  have hs : (iteratorState threeElements #[] 1).HasLeft 0 threeElements := ⟨by decide, rfl⟩
  have hfails : Trace (.ofDepth 2) (overIterator (.ofData 0 .null) 0 (inseparableSpec .null)) 0
      (iteratorState threeElements #[] 1) []
      (.visitFails ⟨⟨0, "0", .str "a"⟩, iteratorState (threeElements.drop 1) #["a"] 1⟩
        (.notCallable .null) (iteratorState (threeElements.drop 1) #["a"] 2)) :=
    .visitFails rfl rfl
  have hvisits : Trace (.ofDepth 2)
      (overIterator (.ofData 0 .null) 0 (inseparableSpec loggingCallback)) 0
      (iteratorState (threeElements.drop 1) #["a"] 2)
      [(⟨⟨0, "0", .str "b"⟩, iteratorState (threeElements.drop 2) #["a", "b"] 2⟩, .str "b"),
        (⟨⟨1, "1", .str "c"⟩, iteratorState [] #["a", "b", "item", "c"] 3⟩, .str "c")]
      (.exhausted (iteratorState [] #["a", "b", "item", "c", "item"] 4)) :=
    .visit rfl rfl (.visit rfl rfl (.exhausted rfl))
  have hnothing : Trace (.ofDepth 2) (overIterator (.ofData 0 .null) 0 (inseparableSpec .null)) 0
      (iteratorState [] #["a", "b", "item", "c", "item"] 4) [] (.exhausted _) :=
    .exhausted rfl
  have hafter : ((Context.ofData 0 .null).join (.ofDepth 2) (.iterator 0)
      (inseparableSpec loggingCallback)).stateAfter
        (iteratorState (threeElements.drop 1) #["a"] 2) =
      iteratorState [] #["a", "b", "item", "c", "item"] 4 := by
    simp only [Action.stateAfter, Context.join, Context.joinSequence, Context.joinFeed,
      Context.assemble, Context.render_eq_renderLeaves]
    rfl
  have hlast := Joins.cons hnothing (List.forall_mem_nil _) (.refl _) rfl (.nil _)
  have hsecond := Joins.cons hvisits
    (List.forall_mem_cons.mpr ⟨rfl, List.forall_mem_cons.mpr ⟨rfl, List.forall_mem_nil _⟩⟩)
    (hafter ▸ .refl _) (hafter ▸ rfl) hlast
  have hjoins := Joins.cons hfails (List.forall_mem_cons.mpr ⟨rfl, List.forall_mem_nil _⟩)
    (.refl _) rfl hsecond
  have hall := (joins_deliver_each_element_once (Host.ofDepth_lawful 2) hs).2.1
  exact ⟨_, hjoins, (hall _ _ hjoins).2.1, rfl⟩

end Stencil
