import Stencil.Template

/-!
# Flattening with a stack

What flattening comes to is said by recursion: a sequence comes to what its elements come to, one
behind the other, lists and tuples are sequences, null comes to nothing, and any other value to
itself. Only one function does this (`Template.IsFlattening.eq_leaves`).

The loop holds a stack of the sequences that it is in the midst of, the innermost on top. A step
takes the next entry of the top, or leaves the top when it is exhausted. To enter a list makes the
stack larger, but every step takes one off the work that is left (`Flattening.Step.work_eq`), and
none changes what was found followed by the leaves of what remains (`Flattening.Step.pending_eq`).
So the loop ends from every state, and what it has found by then is known (`Flattening.runs_iff`).
-/

namespace Stencil

namespace Template

/-- What flattening does to sequences of templates, said by recursion. -/
structure IsFlattening (flat : List Value → List Value) : Prop where
  /-- A sequence comes to what its elements come to, one behind the other. -/
  sequence : ∀ vs, flat vs = vs.flatMap fun v => flat [v]
  /-- A list among the elements is flattened in its place. -/
  list : ∀ items, flat [.list items] = flat items
  /-- A tuple among the elements is flattened in its place. -/
  tuple : ∀ items, flat [.tuple items] = flat items
  /-- Null comes to nothing. -/
  null : flat [.null] = []
  /-- Any other value is a leaf. -/
  leaf : ∀ v, v.isNull = false → v.isSequence = false → flat [v] = [v]

theorem leaves_singleton (v : Value) : leaves [v] = leavesOf v := by
  rw [leaves_cons, leaves_nil, List.append_nil]

/-- A value that is neither null nor a list or tuple is its only leaf. -/
theorem leavesOf_eq_singleton {v : Value} (hnull : v.isNull = false)
    (hsequence : v.isSequence = false) : leavesOf v = [v] := by
  cases v with
  | null => cases hnull
  | list items => cases hsequence
  | tuple items => cases hsequence
  | _ => rfl

/-- Finding the leaves is flattening. -/
theorem isFlattening_leaves : IsFlattening leaves where
  sequence vs := by
    simp only [leaves_singleton]
    induction vs with
    | nil => rfl
    | cons v vs ih => rw [leaves_cons, List.flatMap_cons, ih]
  list items := leaves_singleton (.list items)
  tuple items := leaves_singleton (.tuple items)
  null := leaves_singleton .null
  leaf v hnull hsequence := by
    rw [leaves_singleton, leavesOf_eq_singleton hnull hsequence]

namespace IsFlattening

variable {flat : List Value → List Value}

mutual

theorem singleton_eq (hflat : IsFlattening flat) : ∀ v : Value, flat [v] = leavesOf v
  | .null => hflat.null
  | .list items => (hflat.list items).trans (hflat.eq_leaves items)
  | .tuple items => (hflat.tuple items).trans (hflat.eq_leaves items)
  | .bool _ | .int _ | .str _ | .dict _ | .bytes _ | .range _ | .iterator _ | .function _
  | .applied _ _ _ | .context _ | .shape _ => hflat.leaf _ rfl rfl

/-- The leaves are all that flattening can come to, by recursion on the structure of templates. -/
theorem eq_leaves (hflat : IsFlattening flat) : ∀ vs : List Value, flat vs = leaves vs
  | [] => hflat.sequence []
  | v :: vs => by
    have hrest := hflat.eq_leaves vs
    rw [hflat.sequence] at hrest
    rw [hflat.sequence, List.flatMap_cons, hrest, hflat.singleton_eq v, leaves_cons]

end

end IsFlattening

mutual

/-- The number of steps that the loop takes for a template among others. -/
def stepsOf : Value → Nat
  | .list items => 1 + steps items
  | .tuple items => 1 + steps items
  | _ => 1

/-- The number of steps that the loop takes for what remains of a sequence, with the one in which it
is found to be exhausted. -/
def steps : List Value → Nat
  | [] => 1
  | v :: vs => stepsOf v + steps vs

end

end Template

open Template

/-- A state of the loop that flattens. -/
structure Flattening where
  /-- The leaves found so far, in order. -/
  found : List Value
  /-- What remains of each sequence that the loop is in the midst of, the innermost first. -/
  stack : List (List Value)

namespace Flattening

/-- One step of the loop, which looks at the top of the stack. -/
inductive Step : Flattening → Flattening → Prop
  /-- The top is exhausted and left. -/
  | leave (found : List Value) (frames : List (List Value)) :
      Step ⟨found, [] :: frames⟩ ⟨found, frames⟩
  /-- The next entry is null and dropped. -/
  | drop (found rest : List Value) (frames : List (List Value)) :
      Step ⟨found, (.null :: rest) :: frames⟩ ⟨found, rest :: frames⟩
  /-- The next entry is a list, which is entered; what is behind it waits. -/
  | enterList (found items rest : List Value) (frames : List (List Value)) :
      Step ⟨found, (.list items :: rest) :: frames⟩ ⟨found, items :: rest :: frames⟩
  /-- The next entry is a tuple, which is entered; what is behind it waits. -/
  | enterTuple (found items rest : List Value) (frames : List (List Value)) :
      Step ⟨found, (.tuple items :: rest) :: frames⟩ ⟨found, items :: rest :: frames⟩
  /-- The next entry is a leaf. -/
  | find (found rest : List Value) (frames : List (List Value)) {v : Value}
      (hnull : v.isNull = false) (hsequence : v.isSequence = false) :
      Step ⟨found, (v :: rest) :: frames⟩ ⟨found ++ [v], rest :: frames⟩

/-- From a state, the loop comes to its end in another one after some steps. It ends when the stack
is empty. -/
inductive Runs : Flattening → Nat → Flattening → Prop
  | done {l : Flattening} (hstack : l.stack = []) : Runs l 0 l
  | step {l m t : Flattening} {n : Nat} (hstep : Step l m) (hrest : Runs m n t) : Runs l (n + 1) t

/-- The number of steps that are left. -/
def work (l : Flattening) : Nat :=
  l.stack.foldr (fun rest n => steps rest + n) 0

/-- What was found, and behind it the leaves of what remains, from the top of the stack down. -/
def pending (l : Flattening) : List Value :=
  l.found ++ l.stack.flatMap leaves

section

variable {l m t : Flattening} {n : Nat}

/-- The loop goes on while the stack is not empty. -/
theorem exists_step (hstack : l.stack ≠ []) : ∃ m, Step l m := by
  obtain ⟨found, stack⟩ := l
  cases stack with
  | nil => exact absurd rfl hstack
  | cons top frames =>
    cases top with
    | nil => exact ⟨_, .leave found frames⟩
    | cons v rest =>
      cases v with
      | null => exact ⟨_, .drop found rest frames⟩
      | list items => exact ⟨_, .enterList found items rest frames⟩
      | tuple items => exact ⟨_, .enterTuple found items rest frames⟩
      | _ => exact ⟨_, .find found rest frames rfl rfl⟩

/-- A step takes one off the work that is left, also when it makes the stack larger. -/
theorem Step.work_eq (hstep : Step l m) : l.work = m.work + 1 := by
  cases hstep with
  | find _ _ _ hnull hsequence =>
    rename_i v
    have hone : stepsOf v = 1 := by
      cases v with
      | null => cases hnull
      | list items => cases hsequence
      | tuple items => cases hsequence
      | _ => rfl
    simp only [work, List.foldr_cons, steps, hone]
    omega
  | _ =>
    simp only [work, List.foldr_cons, steps, stepsOf]
    omega

/-- No step loses, repeats or moves a leaf. -/
theorem Step.pending_eq (hstep : Step l m) : m.pending = l.pending := by
  cases hstep with
  | find _ _ _ hnull hsequence =>
    have hleaf := leavesOf_eq_singleton hnull hsequence
    simp only [pending, List.flatMap_cons, leaves_cons, hleaf, List.append_assoc]
  | _ => simp [pending]

/-- A run takes as many steps as there is work, and ends with an empty stack and all that was
pending found. -/
theorem Runs.eq (hruns : Runs l n t) : n = l.work ∧ t = ⟨l.pending, []⟩ := by
  induction hruns with
  | @done l hstack =>
    obtain ⟨found, stack⟩ := l
    obtain rfl : stack = [] := hstack
    refine ⟨rfl, ?_⟩
    simp [pending]
  | step hstep _ ih =>
    obtain ⟨rfl, rfl⟩ := ih
    rw [hstep.work_eq, hstep.pending_eq]
    exact ⟨rfl, rfl⟩

/-- No run of the loop goes on for ever. -/
theorem wellFounded_step : WellFounded fun m l => Step l m := by
  refine Subrelation.wf (fun {m l} hstep => ?_) (measure work).wf
  have hless := hstep.work_eq
  show m.work < l.work
  omega

/-- From every state the loop runs to its end. -/
theorem exists_runs (l : Flattening) : ∃ n t, Runs l n t := by
  induction l using wellFounded_step.induction with
  | h l ih =>
    by_cases hstack : l.stack = []
    · exact ⟨0, l, .done hstack⟩
    · obtain ⟨m, hstep⟩ := exists_step hstack
      obtain ⟨n, t, hrest⟩ := ih m hstep
      exact ⟨n + 1, t, .step hstep hrest⟩

/-- There is one run from a state to the end of the loop. -/
theorem runs_iff : Runs l n t ↔ n = l.work ∧ t = ⟨l.pending, []⟩ := by
  constructor
  · exact Runs.eq
  · rintro ⟨rfl, rfl⟩
    obtain ⟨n, t, hruns⟩ := exists_runs l
    obtain ⟨rfl, rfl⟩ := hruns.eq
    exact hruns

end

end Flattening

/-- Flattening is what recursion says, and nothing else is. The loop that computes it comes to its
end from every state, with whatever found so far and whatever stack of partly consumed sequences: it
has then found, behind what it had, the leaves of what remained of each sequence on the stack, from
the top down. -/
theorem flattening_loop_finds_leaves :
    (∀ flat : List Value → List Value, IsFlattening flat ↔ flat = flatten) ∧
    (WellFounded fun m l => Flattening.Step l m) ∧
    ∀ l : Flattening,
      (∀ n t, Flattening.Runs l n t ↔
        n = l.work ∧ t = ⟨l.found ++ l.stack.flatMap flatten, []⟩) ∧
      flattenStack l.stack l.found.reverse = l.found ++ l.stack.flatMap flatten := by
  have hflatten : flatten = leaves := funext flatten_eq_leaves
  rw [hflatten]
  refine ⟨fun flat => ⟨fun hflat => ?_, ?_⟩, Flattening.wellFounded_step, fun l => ⟨?_, ?_⟩⟩
  · exact funext hflat.eq_leaves
  · rintro rfl
    exact isFlattening_leaves
  · intro n t
    exact Flattening.runs_iff
  · rw [flattenStack_eq, List.reverse_reverse]

end Stencil
