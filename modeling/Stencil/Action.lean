import Stencil.Failure

/-!
# Actions

Rendering runs callables, which may write to a log, take elements from one-shot iterators and fail.
An `Action` is a computation with these effects; the state it reaches is kept when it fails. What
callables do is up to a `Host`: rendering is written, and its laws hold, for every host.
-/

namespace Stencil

/-- An expression that waits for its evaluation, with the argument lists in its scope. -/
structure Suspended where
  /-- The expression. -/
  body : Expr
  /-- The argument lists in scope, innermost first. -/
  scope : List (List Value)

/-- What is known of a one-shot iterator. -/
inductive Iterator where
  /-- The elements that are left. -/
  | idle (rest : List Suspended)
  /-- An element is being evaluated. -/
  | running

/-- The effects so far. -/
structure State where
  /-- The log, oldest entry first. -/
  log : Array String
  /-- The one-shot iterators, each in the place that is its identity. -/
  iterators : Array Iterator
  /-- The next identity of a callable or context. -/
  nextId : Nat
  /-- The values of earlier steps, newest first. -/
  bindings : List (String × Value)

instance : Inhabited State := ⟨⟨#[], #[], 0, []⟩⟩

/-- A computation with effects that may fail; the state is kept in both cases. -/
abbrev Action := EStateM Failure State

/-- The meaning of callables and of elements that are still to be evaluated. -/
structure Host where
  /-- Runs the body of a function on arguments that bind. -/
  run : Closure → List Value → Action Value
  /-- Evaluates an element of a one-shot iterator. -/
  force : Suspended → Action Value
  /-- What a function without readable parameters says of a number of arguments it does not take. -/
  refuses? : Closure → Nat → Option String

namespace State

/-- The state of an iterator; one that does not exist is exhausted. -/
def iterator (s : State) (id : Nat) : Iterator :=
  s.iterators[id]?.getD (.idle [])

/-- Changes the state of an iterator. -/
def setIterator (s : State) (id : Nat) (it : Iterator) : State :=
  { s with iterators := s.iterators.setIfInBounds id it }

/-- A change of one iterator is read back where there is one. -/
theorem iterator_setIterator_self (s : State) {id : Nat} (hi : id < s.iterators.size)
    (it : Iterator) : (s.setIterator id it).iterator id = it := by
  simp [setIterator, iterator, hi]

/-- A change of one iterator leaves the others alone. -/
theorem iterator_setIterator_ne (s : State) {id other : Nat} (ho : id ≠ other) (it : Iterator) :
    (s.setIterator id it).iterator other = s.iterator other := by
  simp [setIterator, iterator, ho]

/-- The value of the newest step with the given name. -/
def valueOf? (s : State) (name : String) : Option Value :=
  (s.bindings.find? fun v => v.1 == name).map (·.2)

/-- How many times an iterator can be asked with an effect: once for each element that is left, and
once to no avail while it is running. -/
def remaining (s : State) (id : Nat) : Nat :=
  match s.iterator id with
  | .idle rest => rest.length
  | .running => 1

end State

namespace Action

/-- Appends an entry to the log. -/
def writeLog (entry : String) : Action Unit :=
  modify fun s => { s with log := s.log.push entry }

/-- The outcome of a pure computation. -/
def ofExcept {α : Type} : Except Failure α → Action α
  | .ok a => pure a
  | .error e => throw e

/-- An identity that was not given out before. -/
def freshId : Action Nat := fun s =>
  .ok s.nextId { s with nextId := s.nextId + 1 }

/-- Makes a one-shot iterator over suspended elements. -/
def newIterator (elements : List Suspended) : Action Value := fun s =>
  .ok (.iterator s.iterators.size) { s with iterators := s.iterators.push (.idle elements) }

/-- An action that is done in an iteration, out of which its failure comes. -/
def iterated {α : Type} (a : Action α) : Action α := fun s =>
  match a.run s with
  | .ok x t => .ok x t
  | .error e t => .error e.iterated t

/-- Takes the next element of a one-shot iterator and evaluates it; none when it is exhausted, which
it also is once an element has failed. The failure comes out of the iteration. -/
def draw (h : Host) (id : Nat) : Action (Option Value) := fun s =>
  match s.iterator id with
  | .running => .error .iteratorRunning s
  | .idle [] => .ok none s
  | .idle (next :: rest) =>
    match (h.force next).iterated (s.setIterator id .running) with
    | .ok v s => .ok (some v) (s.setIterator id (.idle rest))
    | .error e s => .error e (s.setIterator id (.idle []))

end Action

end Stencil
