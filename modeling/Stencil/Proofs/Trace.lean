import Stencil.Proofs.JoinRun

/-!
# Traces of joins

A trace tells what a join does with its entries, call by call: for which entries the callback is
called, in which state each call is made and what comes of it, and how the walk over the entries
ends. From every state a join has exactly one trace, and it comes to what its trace says
(`JoinCall.exists_trace`, `JoinCall.Trace.unique`).
-/

namespace Stencil

namespace JoinCall

/-- A join over a list by position. -/
def overList (c : Context) (xs : List Value) (spec : JoinSpec) : JoinCall :=
  ⟨c, .list xs, .sequence, spec⟩

/-- A join over a one-shot iterator. -/
def overIterator (c : Context) (id : Nat) (spec : JoinSpec) : JoinCall :=
  ⟨c, .iterator id, .sequence, spec⟩

/-- A join over a dictionary by key. -/
def overEntries (c : Context) (entries : Entries) (spec : JoinSpec) : JoinCall :=
  ⟨c, .dict entries, .mapping, spec⟩

/-- The entries of a list are at hand. -/
theorem ask_overList (h : Host) (c : Context) (xs : List Value) (spec : JoinSpec) (i : Nat) :
    (overList c xs spec).ask h i = pure (xs[i]?.map (Entry.positional i)) :=
  rfl

/-- An entry of a dictionary is had when its key can be written. -/
theorem ask_overEntries (h : Host) (c : Context) (entries : Entries) (spec : JoinSpec) (i : Nat) :
    (overEntries c entries spec).ask h i =
      Action.ofExcept (entries[i]?.mapM (Entry.keyed i)) := by
  simp only [ask, overEntries]
  cases entries[i]? with
  | none => rfl
  | some entry =>
    simp only [Option.mapM_some, Entry.keyed]
    cases entry.1.written <;> rfl

/-- A visit of an entry: the callback is called for it. -/
structure Visit where
  /-- The entry. -/
  entry : Entry
  /-- The state in which the entry was had, from which the visit starts. -/
  before : State

/-- How a walk over entries ends. -/
inductive Ending where
  /-- There is no entry left. -/
  | exhausted (after : State)
  /-- The next entry cannot be had. -/
  | entryFails (e : Failure) (after : State)
  /-- The next entry is had, but its visit fails. -/
  | visitFails (visit : Visit) (e : Failure) (after : State)

/-- The arguments that the callback is called with at a visit. The child context has the next
identity that the state gives out. -/
def arguments (j : JoinCall) (v : Visit) : List Value :=
  (j.spec.resolveShape j.mode).arguments (.context (j.context.child v.before.nextId v.entry))
    (.int v.entry.index) (.str v.entry.name) v.entry.item

/-- From a place and a state, entries are had and visited, each before the next is asked for, until
the walk ends. The visits that succeed stand beside their results. -/
inductive Trace (h : Host) (j : JoinCall) : Nat → State → List (Visit × Value) → Ending → Prop
  | exhausted {i : Nat} {s t : State} (hask : (j.ask h i).run s = .ok none t) :
      Trace h j i s [] (.exhausted t)
  | entryFails {i : Nat} {s t : State} {e : Failure} (hask : (j.ask h i).run s = .error e t) :
      Trace h j i s [] (.entryFails e t)
  | visitFails {i : Nat} {s t u : State} {entry : Entry} {e : Failure}
      (hask : (j.ask h i).run s = .ok (some entry) t)
      (hvisit : (j.visit h entry).run t = .error e u) :
      Trace h j i s [] (.visitFails ⟨entry, t⟩ e u)
  | visit {i : Nat} {s t u : State} {entry : Entry} {result : Value}
      {visited : List (Visit × Value)} {ending : Ending}
      (hask : (j.ask h i).run s = .ok (some entry) t)
      (hvisit : (j.visit h entry).run t = .ok result u)
      (hrest : Trace h j (i + 1) u visited ending) :
      Trace h j i s ((⟨entry, t⟩, result) :: visited) ending

/-- All visits in order, the one that fails last. -/
def calls (visited : List (Visit × Value)) : Ending → List Visit
  | .visitFails v _ _ => visited.map (·.1) ++ [v]
  | .exhausted _ | .entryFails _ _ => visited.map (·.1)

/-- The results of visits that are kept, in order: all but null. -/
def results (visited : List (Visit × Value)) : List Value :=
  kept (visited.map fun v => (v.1.entry, v.2))

/-- What a join comes to when its walk ends, with the results that were kept. -/
def Ending.outcome (h : Host) (j : JoinCall) (kept : List Value) :
    Ending → EStateM.Result Failure State String
  | .exhausted t => (j.context.assemble h j.spec kept).run t
  | .entryFails e t | .visitFails _ e t => .error e t

section

variable {h : Host} {j : JoinCall} {i : Nat} {s t : State} {visited visited' : List (Visit × Value)}
  {ending ending' : Ending}

/-- At a visit the callback is called with the arguments, after the identity was given out. -/
theorem run_visit (v : Visit) :
    (j.visit h v.entry).run v.before = (j.spec.callback.call h (j.arguments v)).run
      { v.before with nextId := v.before.nextId + 1 } := rfl

@[simp] theorem calls_cons (v : Visit × Value) (visited : List (Visit × Value)) (ending : Ending) :
    calls (v :: visited) ending = v.1 :: calls visited ending := by
  cases ending <;> rfl

/-- Nothing is left open in what a join does: from a state it has one trace only. -/
theorem Trace.unique (htrace : j.Trace h i s visited ending)
    (htrace' : j.Trace h i s visited' ending') : visited = visited' ∧ ending = ending' := by
  -- What asking and visiting come to decides how the other trace goes on.
  induction htrace generalizing visited' ending' with
  | exhausted hask =>
    cases htrace' with
    | exhausted hask' =>
      cases hask.symm.trans hask'
      exact ⟨rfl, rfl⟩
    | entryFails hask' | visitFails hask' | visit hask' => cases hask.symm.trans hask'
  | entryFails hask =>
    cases htrace' with
    | entryFails hask' =>
      cases hask.symm.trans hask'
      exact ⟨rfl, rfl⟩
    | exhausted hask' | visitFails hask' | visit hask' => cases hask.symm.trans hask'
  | visitFails hask hvisit =>
    cases htrace' with
    | visitFails hask' hvisit' =>
      cases hask.symm.trans hask'
      cases hvisit.symm.trans hvisit'
      exact ⟨rfl, rfl⟩
    | visit hask' hvisit' =>
      cases hask.symm.trans hask'
      cases hvisit.symm.trans hvisit'
    | exhausted hask' | entryFails hask' => cases hask.symm.trans hask'
  | visit hask hvisit _ ih =>
    cases htrace' with
    | visit hask' hvisit' hrest' =>
      cases hask.symm.trans hask'
      cases hvisit.symm.trans hvisit'
      obtain ⟨rfl, rfl⟩ := ih hrest'
      exact ⟨rfl, rfl⟩
    | visitFails hask' hvisit' =>
      cases hask.symm.trans hask'
      cases hvisit.symm.trans hvisit'
    | exhausted hask' | entryFails hask' => cases hask.symm.trans hask'

/-- The visit in a place starts where its entry is had after the visits before it. -/
theorem Trace.reaches {k : Nat} {v : Visit} (htrace : j.Trace h i s visited ending)
    (hv : (calls visited ending)[k]? = some v) :
    ∃ u, j.Walk h i s ((visited.take k).map fun w => (w.1.entry, w.2)) u ∧
      (j.ask h (i + k)).run u = .ok (some v.entry) v.before := by
  induction htrace generalizing k with
  | exhausted | entryFails => cases hv
  | @visitFails i s t u entry e hask _ =>
    cases k with
    | zero =>
      obtain rfl := Option.some.inj hv
      exact ⟨s, .nil i s, hask⟩
    | succ k => cases hv
  | @visit i s t u entry result visited ending hask hvisit _ ih =>
    rw [calls_cons] at hv
    cases k with
    | zero =>
      obtain rfl := Option.some.inj hv
      exact ⟨s, .nil i s, hask⟩
    | succ k =>
      obtain ⟨w, hwalk, hnext⟩ := ih hv
      rw [Nat.add_right_comm] at hnext
      exact ⟨w, .cons hask hvisit hwalk, hnext⟩

/-- A walk is the beginning of the trace that goes on where it ended. -/
theorem Walk.exists_trace {walked : List (Entry × Value)} (hwalk : j.Walk h i s walked t)
    (hend : j.Trace h (i + walked.length) t [] ending) :
    ∃ visited, walked = visited.map (fun v => (v.1.entry, v.2)) ∧
      j.Trace h i s visited ending := by
  induction hwalk with
  | nil i s => exact ⟨[], rfl, hend⟩
  | @cons i s u v t entry result walked hask hvisit _ ih =>
    rw [List.length_cons, ← Nat.add_assoc, Nat.add_right_comm] at hend
    obtain ⟨visited, rfl, htrace⟩ := ih hend
    exact ⟨(⟨entry, u⟩, result) :: visited, rfl, .visit hask hvisit htrace⟩

section

variable (hh : h.Lawful) (hwalk : j.items.isWalkable j.mode = true)
include hh hwalk

/-- From every state a join has a trace, and it comes to what the trace says. -/
theorem exists_trace (s : State) : ∃ visited ending, j.Trace h 0 s visited ending ∧
    (j.run h).run s = ending.outcome h j (results visited) := by
  cases hr : (j.run h).run s with
  | ok text t =>
    obtain ⟨walked, u, ⟨v, hwalked, hnone⟩, hassemble⟩ := (run_eq_ok_iff hh hwalk).mp hr
    rw [← Nat.zero_add walked.length] at hnone
    obtain ⟨visited, rfl, htrace⟩ := hwalked.exists_trace (.exhausted hnone)
    exact ⟨visited, .exhausted u, htrace, hassemble.symm⟩
  | error e t =>
    rcases (run_eq_error_iff hh hwalk).mp hr with ⟨walked, u, hwalked, hask⟩ |
      ⟨walked, entry, u, ⟨v, hwalked, hask⟩, hvisit⟩ |
      ⟨walked, u, ⟨v, hwalked, hnone⟩, hassemble⟩
    · rw [← Nat.zero_add walked.length] at hask
      obtain ⟨visited, -, htrace⟩ := hwalked.exists_trace (.entryFails hask)
      exact ⟨visited, .entryFails e t, htrace, rfl⟩
    · rw [← Nat.zero_add walked.length] at hask
      obtain ⟨visited, -, htrace⟩ := hwalked.exists_trace (.visitFails hask hvisit)
      exact ⟨visited, .visitFails ⟨entry, u⟩ e t, htrace, rfl⟩
    · rw [← Nat.zero_add walked.length] at hnone
      obtain ⟨visited, rfl, htrace⟩ := hwalked.exists_trace (.exhausted hnone)
      exact ⟨visited, .exhausted u, htrace, hassemble.symm⟩

/-- A join comes to what its trace says. -/
theorem Trace.run_eq (htrace : j.Trace h 0 s visited ending) :
    (j.run h).run s = ending.outcome h j (results visited) := by
  obtain ⟨visited', ending', htrace', hrun⟩ := exists_trace hh hwalk s
  obtain ⟨rfl, rfl⟩ := htrace.unique htrace'
  exact hrun

end

end

end JoinCall

end Stencil
