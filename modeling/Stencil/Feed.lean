import Stencil.Action
import Stencil.Value.Dict

/-!
# Feeds

A feed is what a join walks over: entries that are produced one at a time, each with its position,
its label and its element. Containers are walked by position, dictionaries by key; a one-shot
iterator evaluates an element when the entry is asked for.
-/

namespace Stencil

/-- One element of a join. -/
structure Entry where
  /-- The position, counted from zero over all entries. -/
  index : Nat
  /-- The decimal position, or the text of the key. -/
  name : String
  /-- The element, or the value under the key. -/
  item : Value

/-- The entry of an element that is labelled by its position. -/
def Entry.positional (index : Nat) (item : Value) : Entry :=
  ⟨index, toString index, item⟩

/-- The entry of a dictionary that stands in the given position; it has one where the key can be
written. -/
def Entry.keyed (index : Nat) (entry : Value × Value) : Except Failure Entry :=
  entry.1.written.map fun name => ⟨index, name, entry.2⟩

/-- A source of entries. -/
structure Feed where
  /-- The number of fetches after which the feed is exhausted. -/
  limit : Nat
  /-- The entry in a place, asked for once and in order. -/
  fetch : Nat → Action (Option Entry)

namespace Feed

/-- The feed of elements that are at hand. -/
def ofElements (items : List Value) : Feed :=
  let elements := items.toArray
  { limit := elements.size
    fetch := fun i => pure (elements[i]?.map (Entry.positional i)) }

/-- The feed of a dictionary by key. -/
def ofEntries (entries : Entries) : Feed :=
  let elements := entries.toArray
  { limit := elements.size
    fetch := fun i => Action.ofExcept (elements[i]?.mapM (Entry.keyed i)) }

/-- The feed of a progression, whose elements are computed on demand. -/
def ofProgression (p : Progression) : Feed :=
  { limit := p.length
    fetch := fun i => pure ((p.get? i).map fun n => Entry.positional i (.int n)) }

/-- The feed of a one-shot iterator from which at most `limit` elements can still be asked. -/
def ofIterator (h : Host) (limit id : Nat) : Feed :=
  { limit
    fetch := fun i => do
      let item ← Action.draw h id
      pure (item.map (Entry.positional i)) }

@[simp] theorem limit_ofElements (items : List Value) : (ofElements items).limit = items.length :=
  rfl

@[simp] theorem fetch_ofElements (items : List Value) (i : Nat) :
    (ofElements items).fetch i = pure (items[i]?.map (Entry.positional i)) := by
  simp [ofElements]

@[simp] theorem limit_ofEntries (entries : Entries) : (ofEntries entries).limit = entries.length :=
  rfl

@[simp] theorem fetch_ofEntries (entries : Entries) (i : Nat) :
    (ofEntries entries).fetch i = Action.ofExcept (entries[i]?.mapM (Entry.keyed i)) := by
  simp [ofEntries]

/-- A progression is fed like the list of its elements. -/
theorem ofProgression_eq (p : Progression) :
    ofProgression p = ofElements (p.toList.map .int) := by
  simp only [ofProgression, ofElements, Feed.mk.injEq]
  refine ⟨by simp, ?_⟩
  funext i
  simp [Option.map_map, Function.comp_def]

/-- The feed of a value by position. Progressions are not spread out first, and a one-shot iterator
gives what is left of it. -/
def sequence (h : Host) (items : Value) : Action Feed :=
  match items with
  | .range p => pure (ofProgression p)
  | .iterator id => do
    let s ← get
    pure (ofIterator h (s.remaining id) id)
  | v =>
    match v.elements? with
    | some elements => pure (ofElements elements)
    | none => throw (.notIterable v)

/-- A value with elements at hand is fed like the list of them. -/
theorem sequence_of_elements? (h : Host) {items : Value} {elements : List Value}
    (he : items.elements? = some elements) : sequence h items = pure (ofElements elements) := by
  cases items <;> simp_all [Value.elements?, sequence, ofProgression_eq]

/-- The feed of a dictionary; no other value has entries. -/
def mapping (items : Value) : Action Feed :=
  match items with
  | .dict entries => pure (ofEntries entries)
  | v => throw (.missingAttribute v "items")

/-- The elements that are left of a feed, asked for in order; `taken` holds earlier ones in
reverse. -/
def drainFrom (feed : Feed) : Nat → Nat → List Value → Action (List Value)
  | 0, _, taken => pure taken.reverse
  | rounds + 1, i, taken => do
    match ← feed.fetch i with
    | none => pure taken.reverse
    | some entry => feed.drainFrom rounds (i + 1) (entry.item :: taken)

/-- All elements of a feed. -/
def drain (feed : Feed) : Action (List Value) :=
  feed.drainFrom feed.limit 0 []

/-- Visits the entries in order, each as soon as it was fetched, and keeps the results that are not
null, in order; `kept` holds earlier ones in reverse. -/
def collectFrom (feed : Feed) (visit : Entry → Action Value) :
    Nat → Nat → List Value → Action (List Value)
  | 0, _, kept => pure kept.reverse
  | rounds + 1, i, kept => do
    match ← feed.fetch i with
    | none => pure kept.reverse
    | some entry =>
      let result ← visit entry
      collectFrom feed visit rounds (i + 1) (if result.isNull then kept else result :: kept)

/-- Visits all entries of a feed and keeps the results that are not null. -/
def collect (feed : Feed) (visit : Entry → Action Value) : Action (List Value) :=
  feed.collectFrom visit feed.limit 0 []

end Feed

end Stencil
