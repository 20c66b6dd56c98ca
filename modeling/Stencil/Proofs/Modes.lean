import Stencil.Proofs.Trace

/-!
# Joins by key and by position

A dictionary whose keys are written as the positions of its entries can be walked over by key or,
as the list of its values, by position. Both joins have the same entries. They can differ only in
the shape that is read off a callback, and there only when it takes three arguments: it gets the
label by key and the number by position.
-/

namespace Stencil

/-- Every key of a dictionary is written as the decimal position of its entry. -/
def Entries.CountsUp (entries : Entries) : Prop :=
  ∀ (j : Nat) (key value : Value), entries[j]? = some (key, value) →
    key.written = .ok (toString j)

theorem Value.ten_le_writeBound : 10 ≤ writeBound := by
  have hlimit : digitLimit ≠ 0 := by decide
  unfold writeBound
  -- Only that the limit is not zero counts; the power itself is too large to be looked at.
  generalize digitLimit = limit at hlimit ⊢
  exact Nat.le_self_pow hlimit 10

/-- A position that can be written is a key that is written as it. -/
theorem Value.written_position {j : Nat} (hj : j < writeBound) :
    (Value.int j).written = .ok (toString j) := by
  have hwritable : (Value.int j).isWritable = true := by
    rw [isWritable, isShort, decide_eq_true_iff]
    exact hj
  rw [written_of_isWritable hwritable]
  rfl

/-- The mode makes a difference to the shape of a callback only when its arity is three. -/
theorem Shape.detect_mapping_eq_sequence {arity : Arity} (harity : arity.code ≠ 3) :
    detect arity .mapping = detect arity .sequence := by
  cases arity with
  | variadic | unknown => rfl
  | required count =>
    have hcount : count ≠ 3 := fun h => harity (congrArg Int.ofNat h)
    unfold detect
    split <;> simp_all

/-- A callback of arity three gets the label by key and the number by position. -/
theorem Shape.detect_of_code_eq_three {arity : Arity} (harity : arity.code = 3) :
    detect arity .mapping = .name ∧ detect arity .sequence = .index := by
  cases arity with
  | variadic | unknown => cases harity
  | required count =>
    obtain rfl : count = 3 := Int.ofNat.inj harity
    exact ⟨rfl, rfl⟩

namespace JoinSpec

variable {spec : JoinSpec}

/-- These parts with another choice of the shape. -/
def withShape (spec : JoinSpec) (shape : Value) : JoinSpec :=
  { spec with shape }

/-- A shape that is chosen is used in both modes, and so is one that is read off a callback of
another arity than three. -/
theorem resolveShape_mapping_eq_sequence
    (hshape : spec.shape.isNull = false ∨ spec.callback.arity.code ≠ 3) :
    spec.resolveShape .mapping = spec.resolveShape .sequence := by
  unfold resolveShape
  split
  case isTrue hnull =>
    have harity := hshape.resolve_left fun h => by cases hnull.symm.trans h
    exact Shape.detect_mapping_eq_sequence harity
  case isFalse => rfl

/-- The shape that is read off a callback of arity three can be chosen as well. -/
theorem resolveShape_of_code_eq_three (hshape : spec.shape.isNull = true)
    (harity : spec.callback.arity.code = 3) :
    spec.resolveShape .mapping = (spec.withShape (.shape .name)).resolveShape .sequence ∧
      (spec.withShape (.shape .index)).resolveShape .mapping = spec.resolveShape .sequence := by
  obtain ⟨hmapping, hsequence⟩ := Shape.detect_of_code_eq_three harity
  constructor
  · simp only [resolveShape, hshape, ite_true, Value.detectShape, hmapping]
    rfl
  · simp only [resolveShape, hshape, ite_true, Value.detectShape, hsequence]
    rfl

end JoinSpec

namespace JoinCall

/-- From every state two joins come to the same, and they make the same calls on the way. -/
structure Same (h : Host) (j j' : JoinCall) : Prop where
  /-- They have the same outcome, with the same state. -/
  run : j.run h = j'.run h
  /-- They visit the same entries in the same states. -/
  trace : ∀ (s : State) (visited : List (Visit × Value)) (ending : Ending),
    j.Trace h 0 s visited ending ↔ j'.Trace h 0 s visited ending
  /-- At a visit they pass the same arguments. -/
  arguments : ∀ v, j.arguments v = j'.arguments v

section

variable {h : Host} {j j' : JoinCall} {i : Nat} {s : State} {visited : List (Visit × Value)}
  {ending : Ending}

theorem Same.symm (hsame : j.Same h j') : j'.Same h j :=
  ⟨hsame.run.symm, fun s visited ending => (hsame.trace s visited ending).symm,
    fun v => (hsame.arguments v).symm⟩

/-- Joins that have the same entries and visit them alike go the same way. -/
theorem Trace.congr (hask : ∀ i, j.ask h i = j'.ask h i)
    (hvisit : ∀ entry, j.visit h entry = j'.visit h entry)
    (htrace : j.Trace h i s visited ending) : j'.Trace h i s visited ending := by
  induction htrace with
  | exhausted hnone => exact .exhausted (hask _ ▸ hnone)
  | entryFails herror => exact .entryFails (hask _ ▸ herror)
  | visitFails hsome herror => exact .visitFails (hask _ ▸ hsome) (hvisit _ ▸ herror)
  | visit hsome hok _ ih => exact .visit (hask _ ▸ hsome) (hvisit _ ▸ hok) ih

/-- Where the keys count up, the entries of a dictionary are those of its values. -/
theorem keyed_eq_positional {entries : Entries} (hkeys : entries.CountsUp) (i : Nat) :
    entries[i]?.mapM (Entry.keyed i) =
      .ok ((entries.map (·.2))[i]?.map (Entry.positional i)) := by
  rw [List.getElem?_map]
  cases hi : entries[i]? with
  | none => rfl
  | some entry =>
    have hwritten := hkeys i entry.1 entry.2 hi
    simp only [Option.mapM_some, Entry.keyed, hwritten]
    rfl

/-- Where the keys count up, a dictionary is fed like the list of its values. -/
theorem ofEntries_eq_ofElements {entries : Entries} (hkeys : entries.CountsUp) :
    Feed.ofEntries entries = Feed.ofElements (entries.map (·.2)) := by
  simp only [Feed.ofEntries, Feed.ofElements, Feed.mk.injEq]
  refine ⟨by simp, ?_⟩
  funext i
  simp only [List.getElem?_toArray, keyed_eq_positional hkeys]
  rfl

/-- Where the keys count up, asking by key and by position is the same. -/
theorem ask_eq_of_countsUp {entries : Entries} (hkeys : entries.CountsUp) (c : Context)
    (spec spec' : JoinSpec) (i : Nat) :
    (overEntries c entries spec).ask h i = (overList c (entries.map (·.2)) spec').ask h i := by
  rw [ask_overEntries, ask_overList, keyed_eq_positional hkeys]
  rfl

/-- Where the keys count up and both modes come to one shape, it makes no difference in which of
them a join is. -/
theorem same_of_resolveShape_eq {entries : Entries} (hkeys : entries.CountsUp) (c : Context)
    (spec : JoinSpec) {a b : Value}
    (hshape : (spec.withShape a).resolveShape .mapping =
      (spec.withShape b).resolveShape .sequence) :
    Same h (overEntries c entries (spec.withShape a))
      (overList c (entries.map (·.2)) (spec.withShape b)) := by
  have hask := ask_eq_of_countsUp (h := h) hkeys c (spec.withShape a) (spec.withShape b)
  have hvisit : ∀ entry, (overEntries c entries (spec.withShape a)).visit h entry =
      (overList c (entries.map (·.2)) (spec.withShape b)).visit h entry := by
    intro entry
    simp only [visit, overEntries, overList, hshape]
    rfl
  refine ⟨?run, fun s visited ending => ⟨?trace, ?trace'⟩, fun v => ?arguments⟩
  case run =>
    have hlist : Feed.sequence h (.list (entries.map (·.2))) =
        pure (Feed.ofElements (entries.map (·.2))) := rfl
    simp only [run, overEntries, overList, Context.joinMapping, Context.joinSequence, Feed.mapping,
      hlist, pure_bind, ofEntries_eq_ofElements hkeys, hshape]
    rfl
  case trace => exact Trace.congr hask hvisit
  case trace' => exact Trace.congr (fun i => (hask i).symm) fun entry => (hvisit entry).symm
  case arguments =>
    simp only [arguments, overEntries, overList, hshape]

end

end JoinCall

open JoinCall in
/-- Where the keys of a dictionary count up, a join over it by key and one over the list of its
values by position are the same when a shape is chosen, and when the callback's arity is not three.
A callback of arity three is called by key as by position with the label chosen, and by position as
by key with the number chosen. -/
theorem modes_differ_on_three_arguments {entries : Entries} (hkeys : entries.CountsUp) (h : Host)
    (c : Context) (spec : JoinSpec) :
    ((spec.shape.isNull = false ∨ spec.callback.arity.code ≠ 3) →
      Same h (overEntries c entries spec) (overList c (entries.map (·.2)) spec)) ∧
    (spec.shape.isNull = true → spec.callback.arity.code = 3 →
      Same h (overEntries c entries spec)
        (overList c (entries.map (·.2)) (spec.withShape (.shape .name))) ∧
      Same h (overList c (entries.map (·.2)) spec)
        (overEntries c entries (spec.withShape (.shape .index)))) := by
  constructor
  · intro hshape
    have hresolve := JoinSpec.resolveShape_mapping_eq_sequence hshape
    exact same_of_resolveShape_eq (a := spec.shape) (b := spec.shape) hkeys c spec hresolve
  · intro hnull harity
    obtain ⟨hname, hindex⟩ := JoinSpec.resolveShape_of_code_eq_three hnull harity
    constructor
    · exact same_of_resolveShape_eq (a := spec.shape) hkeys c spec hname
    · exact (same_of_resolveShape_eq (b := spec.shape) hkeys c spec hindex).symm

/-- A dictionary of three texts, with keys of different kinds that count up. -/
def countedEntries : Entries :=
  [(.int 0, .str "a"), (.str "1", .str "b"), (.int 2, .str "c")]

/-- A callback of three arguments that gives back the second. -/
def secondOfThree : Value :=
  .function ⟨0, "item", some [⟨"context", .positional, false⟩, ⟨"label", .positional, false⟩,
    ⟨"data", .positional, false⟩], .argument 1 0, []⟩

/-- A join of what the callback of three arguments gives back, with a choice of the shape. -/
def secondsSpec (shape : Value) : JoinSpec :=
  ⟨.str ",", secondOfThree, .null, .null, shape⟩

open JoinCall in
/-- With a shape both modes are the same; without one, by key the labels are joined, and by position
the numbers. -/
theorem modes_differ_on_three_arguments_of_labels :
    Same (.ofDepth 2) (overEntries (.ofData 0 .null) countedEntries (secondsSpec (.shape .bare)))
      (overList (.ofData 0 .null) [.str "a", .str "b", .str "c"] (secondsSpec (.shape .bare))) ∧
    Same (.ofDepth 2) (overEntries (.ofData 0 .null) countedEntries (secondsSpec .null))
      (overList (.ofData 0 .null) [.str "a", .str "b", .str "c"] (secondsSpec (.shape .name))) ∧
    Same (.ofDepth 2)
      (overList (.ofData 0 .null) [.str "a", .str "b", .str "c"] (secondsSpec .null))
      (overEntries (.ofData 0 .null) countedEntries (secondsSpec (.shape .index))) := by
  have hkeys : countedEntries.CountsUp := by
    rintro (_ | _ | _ | j) key value ⟨⟩
    · exact Value.written_position (Nat.lt_of_lt_of_le (by decide) Value.ten_le_writeBound)
    · rfl
    · exact Value.written_position (Nat.lt_of_lt_of_le (by decide) Value.ten_le_writeBound)
  have hmodes := modes_differ_on_three_arguments hkeys (.ofDepth 2) (.ofData 0 .null)
  have hbare := (hmodes (secondsSpec (.shape .bare))).1 (.inl rfl)
  have hnull := (hmodes (secondsSpec .null)).2 rfl rfl
  exact ⟨hbare, hnull.1, hnull.2⟩

end Stencil
