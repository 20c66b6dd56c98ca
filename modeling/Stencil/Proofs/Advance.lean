import Stencil.Proofs.Iteration
import Stencil.Script.Eval

/-!
# What actions never undo

One-shot iterators are the only state that a join shares with the callables it runs. They are made
at the end of the list, they give up leading elements, and they never get any back. A host is
lawful when its callables and suspended elements respect this. Then so does every operation, hence
every expression, and by induction on the depth of calls every host that runs scripts is lawful.
-/

namespace Stencil

/-- What can become of a one-shot iterator: one that is left alone keeps a final part of its
elements, and one that is evaluating an element is not interfered with. -/
def Iterator.Advances : Iterator → Iterator → Prop
  | .running, it => it = .running
  | .idle rest, it => ∃ left, it = .idle left ∧ left <:+ rest

namespace Iterator

/-- What is left alone advances. -/
theorem Advances.refl (it : Iterator) : it.Advances it := by
  cases it with
  | idle rest => exact ⟨rest, rfl, List.suffix_refl rest⟩
  | running => exact rfl

/-- One advance after the other is an advance. -/
theorem Advances.trans {a b c : Iterator} (hab : a.Advances b) (hbc : b.Advances c) :
    a.Advances c := by
  cases a with
  | running =>
    obtain rfl : b = .running := hab
    exact hbc
  | idle rest =>
    obtain ⟨left, rfl, hleft⟩ := hab
    obtain ⟨last, rfl, hlast⟩ := hbc
    exact ⟨last, rfl, hlast.trans hleft⟩

end Iterator

/-- Iterators only become more, and each advances. -/
structure State.Advances (s t : State) : Prop where
  /-- No iterator disappears. -/
  size : s.iterators.size ≤ t.iterators.size
  /-- Each iterator advances. -/
  iterator : ∀ id, id < s.iterators.size → (s.iterator id).Advances (t.iterator id)

namespace State

/-- A state that stays as it is advances. -/
theorem Advances.refl (s : State) : s.Advances s :=
  ⟨Nat.le_refl _, fun id _ => Iterator.Advances.refl (s.iterator id)⟩

/-- States advance further and further. -/
theorem Advances.trans {s t u : State} (hst : s.Advances t) (htu : t.Advances u) :
    s.Advances u :=
  ⟨Nat.le_trans hst.size htu.size, fun id hi =>
    (hst.iterator id hi).trans (htu.iterator id (Nat.lt_of_lt_of_le hi hst.size))⟩

/-- A change that leaves the iterators alone advances the state. -/
theorem Advances.of_iterators_eq {s t : State} (h : t.iterators = s.iterators) :
    s.Advances t := by
  have hiterator : ∀ id, t.iterator id = s.iterator id := fun id => by
    simp only [State.iterator, h]
  exact ⟨Nat.le_of_eq (congrArg Array.size h.symm), fun id _ =>
    hiterator id ▸ Iterator.Advances.refl _⟩

/-- A change of one iterator that it can make advances the state. -/
theorem Advances.setIterator (s : State) {id : Nat} {it : Iterator}
    (hit : (s.iterator id).Advances it) : s.Advances (s.setIterator id it) := by
  refine ⟨by simp [State.setIterator], fun other hother => ?_⟩
  by_cases he : id = other
  · subst other
    rw [iterator_setIterator_self s hother]
    exact hit
  · rw [iterator_setIterator_ne s he]
    exact Iterator.Advances.refl _

/-- An iterator that exists has no more elements left after an advance, unless it is evaluating
one. -/
theorem Advances.remaining_le {s t : State} (h : s.Advances t) {id : Nat}
    (hi : id < s.iterators.size) : t.remaining id ≤ s.remaining id := by
  have ha := h.iterator id hi
  cases hs : s.iterator id with
  | running =>
    rw [hs] at ha
    have ht : t.iterator id = .running := ha
    simp only [remaining, hs, ht, Nat.le_refl]
  | idle rest =>
    rw [hs] at ha
    obtain ⟨left, ht, hleft⟩ := ha
    simp only [remaining, hs, ht]
    exact hleft.length_le

end State

namespace Action

/-- The state that an action reaches, whether it fails or not. -/
def stateAfter {α : Type} (a : Action α) (s : State) : State :=
  match a.run s with
  | .ok _ t => t
  | .error _ t => t

/-- Whatever the state it starts in, an action only advances it. -/
def Advances {α : Type} (a : Action α) : Prop :=
  ∀ s : State, s.Advances (a.stateAfter s)

section

variable {α β : Type} {s t : State}

/-- After a success the state is the one that comes with the result. -/
theorem stateAfter_of_ok {a : Action α} {x : α} (h : a.run s = .ok x t) : a.stateAfter s = t := by
  simp only [stateAfter, h]

/-- After a failure the state is the one that comes with the failure. -/
theorem stateAfter_of_error {a : Action α} {e : Failure} (h : a.run s = .error e t) :
    a.stateAfter s = t := by
  simp only [stateAfter, h]

/-- An action that succeeds has advanced the state. -/
theorem Advances.of_ok {a : Action α} (ha : a.Advances) {x : α} (h : a.run s = .ok x t) :
    s.Advances t :=
  stateAfter_of_ok h ▸ ha s

/-- An action that fails has advanced the state as well. -/
theorem Advances.of_error {a : Action α} (ha : a.Advances) {e : Failure}
    (h : a.run s = .error e t) : s.Advances t :=
  stateAfter_of_error h ▸ ha s

/-- An action that keeps the iterators advances. -/
theorem Advances.of_iterators_eq {a : Action α}
    (h : ∀ s, (a.stateAfter s).iterators = s.iterators) : a.Advances :=
  fun s => State.Advances.of_iterators_eq (h s)

/-- A result that is at hand changes nothing. -/
theorem Advances.pure (x : α) : (Pure.pure x : Action α).Advances :=
  .of_iterators_eq fun _ => rfl

/-- A failure changes nothing. -/
theorem Advances.throw (e : Failure) : (MonadExcept.throw e : Action α).Advances :=
  .of_iterators_eq fun _ => rfl

/-- Looking at the state changes nothing. -/
theorem Advances.get : (MonadState.get : Action State).Advances :=
  .of_iterators_eq fun _ => rfl

/-- The outcome of a pure computation changes nothing. -/
theorem Advances.ofExcept (r : Except Failure α) : (Action.ofExcept r).Advances := by
  cases r with
  | ok x => exact .pure x
  | error e => exact .throw e

/-- The log is no iterator. -/
theorem Advances.writeLog (entry : String) : (Action.writeLog entry).Advances :=
  .of_iterators_eq fun _ => rfl

/-- The next identity is no iterator. -/
theorem Advances.freshId : Action.freshId.Advances :=
  .of_iterators_eq fun _ => rfl

/-- Steps in a row advance the state when each does. -/
theorem Advances.bind {a : Action α} {f : α → Action β} (ha : a.Advances)
    (hf : ∀ x, (f x).Advances) : (a >>= f).Advances := by
  intro s
  cases h : a.run s with
  | ok x t =>
    have he : (a >>= f).stateAfter s = (f x).stateAfter t := by
      simp only [stateAfter, EStateM.run_bind, h]
    exact he ▸ (ha.of_ok h).trans (hf x t)
  | error e t =>
    have he : (a >>= f).stateAfter s = t := by
      simp only [stateAfter, EStateM.run_bind, h]
    exact he ▸ ha.of_error h

theorem Advances.map {a : Action α} (ha : a.Advances) (f : α → β) : (f <$> a).Advances := by
  rw [map_eq_pure_bind]
  exact ha.bind fun x => .pure (f x)

/-- An iteration reaches the state that is reached without it. -/
theorem stateAfter_iterated (a : Action α) (s : State) :
    a.iterated.stateAfter s = a.stateAfter s := by
  cases h : a.run s with
  | ok x t => rw [stateAfter_of_ok h, stateAfter_of_ok (run_iterated_eq_ok_iff.mpr h)]
  | error e t =>
    rw [stateAfter_of_error h, stateAfter_of_error (run_iterated_eq_error_iff.mpr ⟨e, h, rfl⟩)]

/-- An action advances the state in an iteration as well. -/
theorem Advances.iterated {a : Action α} (ha : a.Advances) : a.iterated.Advances := by
  intro s
  rw [stateAfter_iterated]
  exact ha s

theorem Advances.among {a : Action α} (ha : a.Advances) (count : Nat) :
    (a.among count).Advances := by
  rcases a.among_eq_or count with h | h
  · rwa [h]
  · rw [h]
    exact ha.iterated

/-- Steps over a list advance the state when each does. -/
theorem Advances.mapM {f : α → Action β} (hf : ∀ x, (f x).Advances) (xs : List α) :
    (xs.mapM f).Advances := by
  induction xs with
  | nil => exact .pure []
  | cons x xs ih =>
    rw [List.mapM_cons]
    exact (hf x).bind fun y => ih.bind fun ys => .pure (y :: ys)

/-- Steps over a list that hand on a value advance the state when each does. -/
theorem Advances.foldlM {f : β → α → Action β} (hf : ∀ y x, (f y x).Advances) (y : β)
    (xs : List α) : (xs.foldlM f y).Advances := by
  induction xs generalizing y with
  | nil => exact .pure y
  | cons x xs ih =>
    rw [List.foldlM_cons]
    exact (hf y x).bind ih

end

/-- A new iterator takes a place of its own. -/
theorem Advances.newIterator (elements : List Suspended) :
    (Action.newIterator elements).Advances := by
  intro s
  refine ⟨by simp [stateAfter, EStateM.run, Action.newIterator], fun id hi => ?_⟩
  have he : ((Action.newIterator elements).stateAfter s).iterator id = s.iterator id := by
    simp [stateAfter, EStateM.run, Action.newIterator, State.iterator, Array.getElem?_push,
      Nat.ne_of_lt hi]
  rw [he]
  exact Iterator.Advances.refl _

end Action

/-- Callables and suspended elements never undo what became of an iterator. -/
structure Host.Lawful (h : Host) : Prop where
  /-- Running a function advances the state. -/
  run : ∀ f arguments, (h.run f arguments).Advances
  /-- Evaluating an element advances the state. -/
  force : ∀ suspended, (h.force suspended).Advances

/-- An iterator that was held while others advanced may be given back with a final part of its
elements. -/
theorem State.Advances.release {s t : State} {id : Nat} {rest left : List Suspended}
    (hs : s.iterator id = .idle rest) (ht : (s.setIterator id .running).Advances t)
    (hleft : left <:+ rest) : s.Advances (t.setIterator id (.idle left)) := by
  have hsize : s.iterators.size ≤ t.iterators.size := by
    simpa [State.setIterator] using ht.size
  refine ⟨by simpa [State.setIterator] using hsize, fun other hother => ?_⟩
  by_cases he : id = other
  · subst other
    rw [hs, State.iterator_setIterator_self t (Nat.lt_of_lt_of_le hother hsize)]
    exact ⟨left, rfl, hleft⟩
  · have ha := ht.iterator other (by simpa [State.setIterator] using hother)
    rwa [State.iterator_setIterator_ne s he, ← State.iterator_setIterator_ne t he] at ha

section

variable {h : Host} (hh : h.Lawful)
include hh

/-- Taking an element advances the state: the iterator is held while the element is evaluated, and
given back with the elements behind it, or with none if the element failed. -/
theorem Action.Advances.draw (id : Nat) : (Action.draw h id).Advances := by
  intro s
  cases hs : s.iterator id with
  | running =>
    simp only [stateAfter, EStateM.run, Action.draw, hs]
    exact .refl s
  | idle rest =>
    cases rest with
    | nil =>
      simp only [stateAfter, EStateM.run, Action.draw, hs]
      exact .refl s
    | cons next rest =>
      have hforce := (hh.force next).iterated (s.setIterator id .running)
      simp only [stateAfter, EStateM.run] at hforce ⊢
      simp only [Action.draw, hs]
      cases hf : (h.force next).iterated (s.setIterator id .running) with
      | ok v t =>
        simp only [hf] at hforce ⊢
        exact .release hs hforce (List.suffix_cons next rest)
      | error e t =>
        simp only [hf] at hforce ⊢
        exact .release hs hforce (List.nil_suffix)

/-- A call that does not bind changes nothing, and any other advances as the host says. -/
theorem Closure.call_advances (f : Closure) (arguments : List Value) :
    (f.call h arguments).Advances := by
  unfold Closure.call
  cases f.bindError? h arguments.length with
  | some cause => exact .throw _
  | none => exact hh.run f arguments

/-- Whatever is called, the state advances. -/
theorem Value.call_advances (v : Value) (arguments : List Value) :
    (v.call h arguments).Advances := by
  cases v with
  | function f => exact f.call_advances hh arguments
  | applied id f bound => exact f.call_advances hh (bound ++ arguments)
  | _ => exact .throw _

/-- Whether it is called or not, a value advances the state. -/
theorem Value.resolve_advances (v : Value) (arguments : List Value) :
    (v.resolve h arguments).Advances := by
  unfold Value.resolve
  split
  · exact v.call_advances hh arguments
  · exact .pure v

namespace Context

/-- A leaf only makes a call. -/
theorem renderLeaf_advances (c : Context) (leaf : Value) : (c.renderLeaf h leaf).Advances := by
  refine (leaf.resolve_advances hh _).bind fun result => ?_
  cases result with
  | null => exact .pure ""
  | str s => exact .pure s
  | _ => exact .throw _

/-- Rendering advances the state with each leaf, however many there are. -/
theorem render_advances (c : Context) (templates : List Value) :
    (c.render h templates).Advances := by
  unfold render
  match Template.flatten templates with
  | [] => exact .pure ""
  | [leaf] => exact c.renderLeaf_advances hh leaf
  | first :: second :: leaves =>
    exact (Action.Advances.mapM (c.renderLeaf_advances hh) _).iterated.bind fun texts => .pure _

/-- A condition only makes a call. -/
theorem holds_advances (c : Context) (condition : Value) : (c.holds h condition).Advances :=
  (condition.resolve_advances hh _).bind fun result => .pure result.truthy

/-- What a condition decides on advances the state. -/
theorem renderIf_advances (c : Context) (condition : Value) (templates : List Value) :
    (c.renderIf h condition templates).Advances := by
  refine (c.holds_advances hh condition).bind fun b => ?_
  split
  · exact c.render_advances hh templates
  · exact .pure ""

theorem renderIfElse_advances (c : Context) (condition yes no : Value) :
    (c.renderIfElse h condition yes no).Advances := by
  refine (c.holds_advances hh condition).bind fun b => ?_
  split
  · exact c.render_advances hh [yes]
  · exact c.render_advances hh [no]

/-- A rebinding advances the state with each selector. -/
theorem rebind_advances (c : Context) (selectors : List Value) :
    (c.rebind h selectors).Advances := by
  refine Action.Advances.foldlM (fun c selector => ?_) c selectors
  exact (selector.resolve_advances hh _).bind fun data =>
    Action.Advances.freshId.bind fun id => .pure (c.derive id data)

/-- A visit makes a context and calls the callback. -/
theorem visit_advances (c : Context) (callback : Value) (shape : Shape) (entry : Entry) :
    (c.visit h callback shape entry).Advances :=
  Action.Advances.freshId.bind fun _ => callback.call_advances hh _

/-- Opening and closing advance the state, and joining the results changes nothing. -/
theorem assemble_advances (c : Context) (spec : JoinSpec) (kept : List Value) :
    (c.assemble h spec kept).Advances := by
  unfold assemble
  split
  · exact .pure ""
  · exact (c.render_advances hh _).bind fun opening =>
      (Action.Advances.ofExcept _).bind fun body =>
        (c.render_advances hh _).bind fun closing => .pure _

end Context

end

namespace Feed

/-- Whatever entry is asked for, a feed only advances the state. -/
def Advances (feed : Feed) : Prop :=
  ∀ i, (feed.fetch i).Advances

/-- Taking all entries of a feed advances the state with each of them. -/
theorem drain_advances {feed : Feed} (hfeed : feed.Advances) : feed.drain.Advances := by
  have hfrom : ∀ rounds i taken, (feed.drainFrom rounds i taken).Advances := by
    intro rounds
    induction rounds with
    | zero => exact fun i taken => .pure taken.reverse
    | succ rounds ih =>
      refine fun i taken => (hfeed i).bind fun next? => ?_
      cases next? with
      | none => exact .pure taken.reverse
      | some entry => exact ih (i + 1) (entry.item :: taken)
  exact hfrom feed.limit 0 []

/-- Visiting the entries of a feed advances the state when asking and visiting do. -/
theorem collectFrom_advances {feed : Feed} (hfeed : feed.Advances) {visit : Entry → Action Value}
    (hvisit : ∀ entry, (visit entry).Advances) (rounds i : Nat) (kept : List Value) :
    (feed.collectFrom visit rounds i kept).Advances := by
  induction rounds generalizing i kept with
  | zero => exact .pure kept.reverse
  | succ rounds ih =>
    refine (hfeed i).bind fun next? => ?_
    cases next? with
    | none => exact .pure kept.reverse
    | some entry => exact (hvisit entry).bind fun result => ih (i + 1) _

theorem collect_advances {feed : Feed} (hfeed : feed.Advances) {visit : Entry → Action Value}
    (hvisit : ∀ entry, (visit entry).Advances) : (feed.collect visit).Advances :=
  collectFrom_advances hfeed hvisit feed.limit 0 []

/-- Whatever is walked over by position, the feed only advances the state. -/
theorem sequence_bind_advances {α : Type} {h : Host} (hh : h.Lawful) (items : Value)
    {f : Feed → Action α} (hf : ∀ feed, feed.Advances → (f feed).Advances) :
    (Feed.sequence h items >>= f).Advances := by
  have hpure : ∀ elements, (pure (ofElements elements) >>= f : Action α).Advances :=
    fun elements => hf _ fun i => fetch_ofElements elements i ▸ .pure _
  cases he : items.elements? with
  | some elements =>
    rw [sequence_of_elements? h he]
    exact hpure elements
  | none =>
    cases items with
    | iterator id =>
      simp only [sequence, bind_assoc, pure_bind]
      exact Action.Advances.get.bind fun s => hf _ fun i =>
        (Action.Advances.draw hh id).bind fun item => .pure _
    | null | bool | int | function | applied | context | shape => exact .throw _
    | _ => cases he

/-- Whatever is walked over by key, the feed only advances the state. -/
theorem mapping_bind_advances {α : Type} (items : Value) {f : Feed → Action α}
    (hf : ∀ feed, feed.Advances → (f feed).Advances) : (Feed.mapping items >>= f).Advances := by
  cases items with
  | dict entries => exact hf _ fun i => fetch_ofEntries entries i ▸ .ofExcept _
  | _ => exact .throw _

end Feed

section

variable {h : Host} (hh : h.Lawful)
include hh

namespace Context

/-- A join by position advances the state with each visit, and with opening and closing. -/
theorem joinSequence_advances (c : Context) (items : Value) (spec : JoinSpec) :
    (c.joinSequence h items spec).Advances :=
  Feed.sequence_bind_advances hh items fun _ hfeed =>
    (Feed.collect_advances hfeed fun entry => c.visit_advances hh _ _ entry).bind
      fun kept => c.assemble_advances hh spec kept

/-- A join by key advances the state like one by position. -/
theorem joinMapping_advances (c : Context) (items : Value) (spec : JoinSpec) :
    (c.joinMapping h items spec).Advances :=
  Feed.mapping_bind_advances items fun _ hfeed =>
    (Feed.collect_advances hfeed fun entry => c.visit_advances hh _ _ entry).bind
      fun kept => c.assemble_advances hh spec kept

/-- In whichever mode, a join advances the state. -/
theorem join_advances (c : Context) (items : Value) (spec : JoinSpec) :
    (c.join h items spec).Advances := by
  cases items with
  | null => exact .pure ""
  | dict entries => exact c.joinMapping_advances hh _ spec
  | _ => exact c.joinSequence_advances hh _ spec

end Context

/-- Rendering against data advances the state, as rendering does. -/
theorem applyData_advances (data template : Value) (templates : List Value) :
    (applyData h data template templates).Advances :=
  Action.Advances.freshId.bind fun id => (Context.ofData id data).render_advances hh _

omit hh in
theorem makeContext_advances (data parent index name : Value) :
    (makeContext data parent index name).Advances :=
  Action.Advances.freshId.bind fun _ => .pure _

omit hh in
/-- Binding arguments for good only gives out an identity. -/
theorem makeApplied_advances (callee : Value) (leading : List Value) :
    (makeApplied callee leading).Advances := by
  refine Action.Advances.freshId.bind fun id => ?_
  cases callee.bindLeading? id leading with
  | some v => exact .pure v
  | none => exact .throw _

namespace Operation

/-- Each operation of scripts advances the state, as its meaning does. -/
theorem run_advances (operation : Operation) (operands : List Value) :
    (operation.run h operands).Advances := by
  unfold Operation.run
  split
  · exact (Action.Advances.ofExcept _).bind fun entry =>
      (Action.Advances.writeLog entry).bind fun _ => .pure _
  · exact .throw _
  · exact makeApplied_advances _ _
  · exact makeContext_advances _ _ _ _
  · exact makeContext_advances _ _ _ _
  · exact makeContext_advances _ _ _ _
  · exact makeContext_advances _ _ _ _
  · exact (Context.render_advances hh _ _).map _
  · exact (Context.renderIf_advances hh _ _ _).map _
  · exact (Context.renderIfElse_advances hh _ _ _ _).map _
  · exact (Context.join_advances hh _ _ _).map _
  · exact (Context.joinSequence_advances hh _ _ _).map _
  · exact (Context.joinMapping_advances hh _ _ _).map _
  · exact (Context.rebind_advances hh _ _).map _
  · exact (applyData_advances hh _ _ _).map _
  · exact Value.call_advances hh _ _
  · exact .ofExcept _

/-- An operation that is refused changes nothing. -/
theorem apply_advances (operation : Operation) (operands : List Value) :
    (operation.apply h operands).Advances := by
  unfold Operation.apply
  cases operation.fault? operands with
  | some e => exact .throw e
  | none => exact operation.run_advances hh operands

end Operation

/-- Spreading a value takes elements of iterators and gives none back. -/
theorem Value.spread_advances (v : Value) : (v.spread h).Advances := by
  have hdrain : ∀ items, (Feed.sequence h items >>= Feed.drain).Advances := fun items =>
    Feed.sequence_bind_advances hh items fun _ hfeed => Feed.drain_advances hfeed
  cases v with
  | list items => exact .pure items
  | tuple items => exact .pure items
  | range p => exact (Action.Advances.ofExcept _).bind fun _ => .pure _
  | _ => exact hdrain _

end

mutual

/-- An expression only advances the state, by recursion on its structure. -/
theorem Expr.eval_advances {h : Host} (hh : h.Lawful) (scope : List (List Value)) :
    ∀ e : Expr, (e.eval h scope).Advances
  | .null | .bool _ | .int _ | .str _ => by simp only [Expr.eval]; exact .pure _
  | .argument index level => by
    simp only [Expr.eval]
    cases scope[level]?.bind fun arguments => argumentAt? arguments index with
    | some v => exact .pure v
    | none => exact .throw _
  | .variable name => by
    simp only [Expr.eval]
    refine Action.Advances.get.bind fun s => ?_
    cases s.valueOf? name with
    | some v => exact .pure v
    | none => exact .throw _
  | .function name signature body => by
    simp only [Expr.eval]
    cases signature.mapM Signature.declare with
    | error cause => exact .throw _
    | ok signature => exact Action.Advances.freshId.bind fun id => .pure _
  | .iterator elements => by
    simp only [Expr.eval]
    exact .newIterator _
  | .dictionary entries => by
    simp only [Expr.eval]
    exact (evalEntries_advances hh scope entries []).map _
  | .branch condition yes no => by
    simp only [Expr.eval]
    refine (Expr.eval_advances hh scope condition).bind fun v => ?_
    split
    · exact Expr.eval_advances hh scope yes
    · exact Expr.eval_advances hh scope no
  | .apply operation operands => by
    simp only [Expr.eval]
    exact (evalOperands_advances hh scope operands).bind (operation.apply_advances hh)

/-- An operand only advances the state. -/
theorem Operand.eval_advances {h : Host} (hh : h.Lawful) (scope : List (List Value)) :
    ∀ operand : Operand, (operand.eval h scope).Advances
  | .one e => by
    simp only [Operand.eval]
    exact (Expr.eval_advances hh scope e).bind fun v => .pure [v]
  | .spread e => by
    simp only [Operand.eval]
    exact (Expr.eval_advances hh scope e).bind fun v => v.spread_advances hh

/-- Operands in a row only advance the state. -/
theorem evalOperands_advances {h : Host} (hh : h.Lawful) (scope : List (List Value)) :
    ∀ operands : List Operand, (evalOperands h scope operands).Advances
  | [] => by simp only [evalOperands]; exact .pure []
  | operand :: rest => by
    simp only [evalOperands]
    exact (Operand.eval_advances hh scope operand).bind fun values =>
      (evalOperands_advances hh scope rest).bind fun others => .pure _

/-- The entries of a dictionary only advance the state. -/
theorem evalEntries_advances {h : Host} (hh : h.Lawful) (scope : List (List Value)) :
    ∀ (written : List (Expr × Expr)) (entries : Entries),
      (evalEntries h scope written entries).Advances
  | [], entries => by simp only [evalEntries]; exact .pure entries
  | (k, v) :: rest, entries => by
    simp only [evalEntries]
    refine (Expr.eval_advances hh scope k).bind fun key =>
      (Expr.eval_advances hh scope v).bind fun value => ?_
    cases key.unhashablePart? with
    | some part => exact .throw _
    | none => exact evalEntries_advances hh scope rest _

end

/-- Scripts never undo what became of an iterator, however deep their calls may nest. -/
theorem Host.ofDepth_lawful (depth : Nat) : (Host.ofDepth depth).Lawful := by
  induction depth with
  | zero => exact ⟨fun _ _ => .throw _, fun _ => .throw _⟩
  | succ depth ih =>
    exact ⟨fun f arguments => Expr.eval_advances ih (arguments :: f.scope) f.body,
      fun suspended => Expr.eval_advances ih suspended.scope suspended.body⟩

end Stencil
