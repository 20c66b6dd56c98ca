import Stencil.Proofs.Delivery

/-!
# Joins over iterators and over lists

A join over a one-shot iterator evaluates each element between two calls of its callback, which may
have any effect. Where the elements come to the values of a list without an effect, and nothing that
the join calls touches the iterator, this makes no difference: the join goes the same way as the one
over the list, call by call, and ends where that one does, except that elements have been taken.
-/

namespace Stencil

namespace State

variable {s : State} {id : Nat}

@[simp] theorem setIterator_setIterator (s : State) (id : Nat) (it it' : Iterator) :
    (s.setIterator id it).setIterator id it' = s.setIterator id it' := by
  simp [setIterator, Array.setIfInBounds_setIfInBounds]

/-- An iterator may be set to what it has left. -/
theorem HasLeft.setIterator_eq {elements : List Suspended} (hs : s.HasLeft id elements) :
    s.setIterator id (.idle elements) = s := by
  have hget : s.iterators[id]? = some (.idle elements) := by
    have hit := hs.iterator
    rw [State.iterator, Array.getElem?_eq_getElem hs.size, Option.getD_some] at hit
    rw [Array.getElem?_eq_getElem hs.size, hit]
  have hset : s.iterators.setIfInBounds id (.idle elements) = s.iterators := by
    apply Array.ext_getElem?
    intro k
    by_cases hk : id = k
    · subst k
      rw [Array.getElem?_setIfInBounds_self_of_lt hs.size, hget]
    · rw [Array.getElem?_setIfInBounds_ne hk]
  simp only [setIterator, hset]

/-- An iterator that exists has what it was given. -/
theorem hasLeft_setIterator (hid : id < s.iterators.size) (elements : List Suspended) :
    (s.setIterator id (.idle elements)).HasLeft id elements :=
  ⟨by simpa [setIterator] using hid, iterator_setIterator_self s hid _⟩

end State

/-- An outcome in whose state an iterator stands elsewhere. -/
def moveIterator {α : Type} (id : Nat) (it : Iterator) :
    EStateM.Result Failure State α → EStateM.Result Failure State α
  | .ok x t => .ok x (t.setIterator id it)
  | .error e t => .error e (t.setIterator id it)

namespace Action

/-- From a state, an action does not touch an iterator: wherever that stands, the action comes to
the same, and leaves it there. -/
def Ignores {α : Type} (a : Action α) (id : Nat) (s : State) : Prop :=
  ∀ it, a.run (s.setIterator id it) = moveIterator id it (a.run s)

section

variable {α β : Type} {a : Action α} {f : α → Action β} {id : Nat} {s t : State}

/-- What ignores an iterator comes to the same result whatever is left of it. -/
theorem Ignores.of_ok (ha : a.Ignores id s) {x : α} (hrun : a.run s = .ok x t) (it : Iterator) :
    a.run (s.setIterator id it) = .ok x (t.setIterator id it) := by
  rw [ha it, hrun, moveIterator]

/-- So it does to the same failure. -/
theorem Ignores.of_error (ha : a.Ignores id s) {e : Failure} (hrun : a.run s = .error e t)
    (it : Iterator) : a.run (s.setIterator id it) = .error e (t.setIterator id it) := by
  rw [ha it, hrun, moveIterator]

theorem Ignores.pure (x : α) (id : Nat) (s : State) : (pure x : Action α).Ignores id s :=
  fun _ => rfl

/-- A computation without effects ignores all iterators. -/
theorem Ignores.ofExcept (r : Except Failure α) (id : Nat) (s : State) :
    (ofExcept r).Ignores id s := by
  cases r with
  | ok x => exact fun _ => rfl
  | error e => exact fun _ => rfl

/-- Steps in a row do not touch an iterator when none of those that are taken does. -/
theorem Ignores.bind (ha : a.Ignores id s)
    (hf : ∀ x t, a.run s = .ok x t → (f x).Ignores id t) : (a >>= f).Ignores id s := by
  intro it
  rw [EStateM.run_bind, EStateM.run_bind]
  cases hrun : a.run s with
  | ok x t =>
    rw [ha.of_ok hrun it]
    exact hf x t hrun it
  | error e t => rw [ha.of_error hrun it, moveIterator]

end

end Action

/-- Putting results together touches an iterator only where opening or closing do. -/
theorem Context.assemble_ignores {h : Host} {c : Context} {spec : JoinSpec} {id : Nat} {s : State}
    (hopening : (c.render h [spec.opening]).Ignores id s)
    (hclosing : ∀ text t, (c.render h [spec.opening]).run s = .ok text t →
      (c.render h [spec.closing]).Ignores id t) (results : List Value) :
    (c.assemble h spec results).Ignores id s := by
  unfold assemble
  split
  · exact .pure "" id s
  · refine hopening.bind fun opening t hrun => ?_
    refine (Action.Ignores.ofExcept _ id t).bind fun body u hbody => ?_
    obtain ⟨-, rfl⟩ := Action.run_ofExcept_eq_ok_iff.mp hbody
    exact (hclosing opening t hrun).bind fun closing v _ => .pure _ id v

namespace JoinCall

/-- A visit before which an iterator has other elements left. -/
def Visit.withLeft (v : Visit) (id : Nat) (elements : List Suspended) : Visit :=
  ⟨v.entry, v.before.setIterator id (.idle elements)⟩

/-- An ending with an iterator that has other elements left. -/
def Ending.withLeft (id : Nat) (elements : List Suspended) : Ending → Ending
  | .exhausted t => .exhausted (t.setIterator id (.idle elements))
  | .entryFails e t => .entryFails e (t.setIterator id (.idle elements))
  | .visitFails v e t =>
    .visitFails (v.withLeft id elements) e (t.setIterator id (.idle elements))

/-- The elements of an iterator stand for the values of a list, where the visits get these values:
there is one for each, and it comes to the value without an effect. -/
structure Provides (h : Host) (id : Nat) (elements : List Suspended) (xs : List Value)
    (visits : List Visit) : Prop where
  /-- There are as many elements as values. -/
  length : elements.length = xs.length
  /-- Before a visit the element comes to the value, and the state is as it was. -/
  force : ∀ (k : Nat) (element : Suspended) (x : Value) (v : Visit), elements[k]? = some element →
    xs[k]? = some x → visits[k]? = some v →
      (h.force element).run (v.before.setIterator id .running) =
        .ok x (v.before.setIterator id .running)

/-- Nothing that a join calls touches an iterator: neither its callback, at any visit, nor opening
and closing. -/
structure Untouched (h : Host) (id : Nat) (j : JoinCall) (visited : List (Visit × Value))
    (ending : Ending) : Prop where
  /-- No visit does. -/
  visit : ∀ v ∈ calls visited ending, (j.visit h v.entry).Ignores id v.before
  /-- The opening does not. -/
  opening : ∀ t, ending = .exhausted t → (j.context.render h [j.spec.opening]).Ignores id t
  /-- The closing does not. -/
  closing : ∀ t text u, ending = .exhausted t →
    (j.context.render h [j.spec.opening]).run t = .ok text u →
      (j.context.render h [j.spec.closing]).Ignores id u

section

variable {h : Host} {id : Nat} {c : Context} {spec : JoinSpec} {i : Nat} {s t : State}
  {element : Suspended} {elements : List Suspended} {x : Value} {xs : List Value} {v : Visit}
  {visits : List Visit} {visited : List (Visit × Value)} {ending : Ending}

/-- The elements behind the first stand for the values behind the first. -/
theorem Provides.tail (hprovides : Provides h id (element :: elements) (x :: xs) (v :: visits)) :
    Provides h id elements xs visits where
  length := Nat.succ.inj hprovides.length
  force := fun k => hprovides.force (k + 1)

/-- Asking for an entry takes the element that stands for its value. -/
theorem run_ask_overIterator (hid : id < s.iterators.size)
    (hforce : (h.force element).run (s.setIterator id .running) =
      .ok x (s.setIterator id .running)) :
    ((overIterator c id spec).ask h i).run (s.setIterator id (.idle (element :: elements))) =
      .ok (some (.positional i x)) (s.setIterator id (.idle elements)) := by
  have hleft := State.hasLeft_setIterator hid (element :: elements)
  rw [ask_iterator rfl rfl, Action.run_map_eq_ok_iff]
  refine ⟨some x, Action.run_draw_eq_ok_some_iff.mpr ?_, rfl⟩
  refine ⟨element, elements, s.setIterator id .running, hleft.iterator, ?_, ?_⟩
  · rw [State.setIterator_setIterator, hforce]
  · rw [State.setIterator_setIterator]

/-- Where the list has a value for an entry, an element stands for it. -/
theorem Provides.exists_eq_cons (hprovides : Provides h id elements (xs.drop i) (v :: visits))
    (hx : xs[i]? = some x) :
    ∃ element behind, elements = element :: behind ∧
      Provides h id (element :: behind) (x :: xs.drop (i + 1)) (v :: visits) := by
  have hdrop : xs.drop i = x :: xs.drop (i + 1) := by
    obtain ⟨hi, rfl⟩ := List.getElem?_eq_some_iff.mp hx
    exact List.drop_eq_getElem_cons hi
  rw [hdrop] at hprovides
  cases elements with
  | nil => cases hprovides.length
  | cons element behind => exact ⟨element, behind, rfl, hprovides⟩

/-- A walk over a list is followed by one over the iterator whose elements stand for its values:
before each visit one more of them has been taken. -/
theorem Trace.overIterator (hh : h.Lawful)
    (htrace : (overList c xs spec).Trace h i s visited ending) (hid : id < s.iterators.size)
    (hprovides : Provides h id elements (xs.drop i) (calls visited ending))
    (hvisits : ∀ v ∈ calls visited ending,
      ((overList c xs spec).visit h v.entry).Ignores id v.before) :
    ∃ visited' ending', ending' = ending.withLeft id (elements.drop (calls visited ending).length) ∧
      (JoinCall.overIterator c id spec).Trace h i (s.setIterator id (.idle elements)) visited'
        ending' ∧
      calls visited' ending' =
        (calls visited ending).mapIdx (fun k v => v.withLeft id (elements.drop (k + 1))) ∧
      results visited' = results visited := by
  induction htrace generalizing elements with
  | @exhausted i s t hask =>
    rw [ask_overList, Action.run_pure_eq_ok_iff] at hask
    obtain ⟨hnone, rfl⟩ := hask
    have hlength : xs.length ≤ i := List.getElem?_eq_none_iff.mp (Option.map_eq_none_iff.mp hnone)
    obtain rfl : elements = [] := by
      rw [← List.length_eq_zero_iff, hprovides.length, List.length_drop]
      omega
    have hleft := State.hasLeft_setIterator hid []
    refine ⟨[], .exhausted (s.setIterator id (.idle [])), rfl, .exhausted ?_, rfl, rfl⟩
    rw [ask_iterator rfl rfl, Action.run_map_eq_ok_iff]
    exact ⟨none, Action.run_draw_eq_ok_none_iff.mpr ⟨hleft.iterator, rfl⟩, rfl⟩
  | entryFails hask => cases hask
  | @visitFails i s t u entry e hask hvisit =>
    rw [ask_overList, Action.run_pure_eq_ok_iff] at hask
    obtain ⟨hsome, rfl⟩ := hask
    obtain ⟨x, hx, rfl⟩ := Option.map_eq_some_iff.mp hsome
    obtain ⟨element, behind, rfl, hprovides'⟩ := hprovides.exists_eq_cons hx
    have hforce := hprovides'.force 0 element x ⟨.positional i x, s⟩ rfl rfl rfl
    have hignores := hvisits ⟨.positional i x, s⟩ (.head _)
    exact ⟨[], _, rfl,
      .visitFails (run_ask_overIterator hid hforce) (hignores.of_error hvisit _), rfl, rfl⟩
  | @visit i s t u entry result visited ending hask hvisit _ ih =>
    rw [calls_cons] at hprovides hvisits ⊢
    rw [ask_overList, Action.run_pure_eq_ok_iff] at hask
    obtain ⟨hsome, rfl⟩ := hask
    obtain ⟨x, hx, rfl⟩ := Option.map_eq_some_iff.mp hsome
    obtain ⟨element, behind, rfl, hprovides'⟩ := hprovides.exists_eq_cons hx
    have hforce := hprovides'.force 0 element x ⟨.positional i x, s⟩ rfl rfl rfl
    have hignores := hvisits ⟨.positional i x, s⟩ (.head _)
    have hsize := ((c.visit_advances hh _ _ _).of_ok hvisit).size
    obtain ⟨visited', ending', hending, htrace, hcalls, hresults⟩ :=
      ih (Nat.lt_of_lt_of_le hid hsize) hprovides'.tail fun v hv => hvisits v (.tail _ hv)
    refine ⟨(⟨.positional i x, s.setIterator id (.idle behind)⟩, result) :: visited', ending',
      hending, .visit (run_ask_overIterator hid hforce) (hignores.of_ok hvisit _) htrace, ?_, ?_⟩
    · rw [calls_cons, hcalls, List.mapIdx_cons]
      rfl
    · simp only [results, List.map_cons, kept_cons] at hresults ⊢
      rw [hresults]

/-- A walk that ended elsewhere with respect to an iterator only comes to what it otherwise does. -/
theorem Untouched.outcome_withLeft
    (huntouched : Untouched h id (overList c xs spec) visited ending) (elements : List Suspended)
    (results : List Value) :
    (ending.withLeft id elements).outcome h (overIterator c id spec) results =
      moveIterator id (.idle elements) (ending.outcome h (overList c xs spec) results) := by
  cases ending with
  | exhausted t =>
    have hignores : (c.assemble h spec results).Ignores id t :=
      Context.assemble_ignores (huntouched.opening t rfl)
        (fun text u => huntouched.closing t text u rfl) results
    exact hignores (.idle elements)
  | entryFails e t | visitFails v e t => rfl

end

end JoinCall

open JoinCall in
/-- When the elements that an iterator has left stand for the values of a list, and nothing that is
called touches the iterator, a join over it makes the calls that the join over the list makes: in
the same order, with the same arguments, and in the same states except that at each one more element
has been taken. Both come to the same text or failure, in states that differ in nothing but where
the iterator stands. -/
theorem join_over_iterator_agrees_with_list {h : Host} (hh : h.Lawful) {id : Nat}
    {elements : List Suspended} {xs : List Value} {c : Context} {spec : JoinSpec} {s : State}
    (hs : s.HasLeft id elements) {visited : List (Visit × Value)} {ending : Ending}
    (htrace : (overList c xs spec).Trace h 0 s visited ending)
    (hprovides : Provides h id elements xs (calls visited ending))
    (huntouched : Untouched h id (overList c xs spec) visited ending) :
    (∃ visited' ending', (overIterator c id spec).Trace h 0 s visited' ending' ∧
      calls visited' ending' =
        (calls visited ending).mapIdx (fun k v => v.withLeft id (elements.drop (k + 1))) ∧
      (calls visited' ending').map (overIterator c id spec).arguments =
        (calls visited ending).map (overList c xs spec).arguments) ∧
    (c.join h (.iterator id) spec).run s =
      moveIterator id (.idle (elements.drop (calls visited ending).length))
        ((c.join h (.list xs) spec).run s) ∧
    (c.joinSequence h (.iterator id) spec).run s =
      moveIterator id (.idle (elements.drop (calls visited ending).length))
        ((c.joinSequence h (.list xs) spec).run s) := by
  obtain ⟨visited', ending', rfl, htrace', hcalls, hresults⟩ :=
    htrace.overIterator hh hs.size hprovides huntouched.visit
  rw [hs.setIterator_eq] at htrace'
  have hrun : ((overIterator c id spec).run h).run s =
      moveIterator id (.idle (elements.drop (calls visited ending).length))
        (((overList c xs spec).run h).run s) := by
    rw [htrace'.run_eq hh rfl, htrace.run_eq hh rfl, hresults, huntouched.outcome_withLeft]
  have harguments : ∀ (v : Visit) (left : List Suspended),
      (overIterator c id spec).arguments (v.withLeft id left) =
        (overList c xs spec).arguments v := fun _ _ => rfl
  refine ⟨⟨visited', _, htrace', hcalls, ?_⟩, hrun, hrun⟩
  rw [hcalls]
  apply List.ext_getElem?
  intro k
  rw [List.getElem?_map, List.getElem?_map, List.getElem?_mapIdx, Option.map_map]
  exact congrArg (Option.map · _) (funext fun v => harguments v _)

/-- Three elements that come to texts without an effect. -/
def plainElements : List Suspended :=
  [⟨.str "a", []⟩, ⟨.str "", []⟩, ⟨.str "b", []⟩]

open JoinCall in
/-- Three texts from an iterator are joined like the list of them, the empty one being left out. -/
theorem join_over_iterator_agrees_with_list_of_texts :
    ((Context.ofData 0 .null).join (.ofDepth 2) (.iterator 0)
        ⟨.str ",", loggingCallback, .str "<", .str ">", .null⟩).run
        (iteratorState plainElements #[] 1) =
      .ok "<a,b>" (iteratorState [] #["item", "item", "item"] 4) := by
  have hs : (iteratorState plainElements #[] 1).HasLeft 0 plainElements := ⟨by decide, rfl⟩
  have htrace : Trace (.ofDepth 2) (overList (.ofData 0 .null) [.str "a", .str "", .str "b"]
      ⟨.str ",", loggingCallback, .str "<", .str ">", .null⟩) 0 (iteratorState plainElements #[] 1)
      [(⟨⟨0, "0", .str "a"⟩, iteratorState plainElements #[] 1⟩, .str "a"),
        (⟨⟨1, "1", .str ""⟩, iteratorState plainElements #["item"] 2⟩, .null),
        (⟨⟨2, "2", .str "b"⟩, iteratorState plainElements #["item", "item"] 3⟩, .str "b")]
      (.exhausted (iteratorState plainElements #["item", "item", "item"] 4)) :=
    .visit rfl rfl (.visit rfl rfl (.visit rfl rfl (.exhausted rfl)))
  have hrender : ∀ (text : String) (t : State),
      ((Context.ofData 0 .null).render (.ofDepth 2) [.str text]).Ignores 0 t := by
    intro text t it
    rw [Context.render_eq_renderLeaves]
    rfl
  have hrun := (join_over_iterator_agrees_with_list (Host.ofDepth_lawful 2) hs htrace
    ⟨rfl, ?provides⟩ ⟨?visit, fun t _ => hrender "<" t, fun _ _ u _ _ => hrender ">" u⟩).2.1
  case provides =>
    rintro (_ | _ | _ | k) element x v ⟨⟩ ⟨⟩ ⟨⟩
    · rfl
    · rfl
    · rfl
  case visit =>
    exact List.forall_mem_cons.mpr ⟨fun _ => rfl, List.forall_mem_cons.mpr ⟨fun _ => rfl,
      List.forall_mem_cons.mpr ⟨fun _ => rfl, List.forall_mem_nil _⟩⟩⟩
  rw [hrun]
  simp only [Context.join, Context.joinSequence, Context.joinFeed, Context.assemble,
    Context.render_eq_renderLeaves]
  rfl

end Stencil
