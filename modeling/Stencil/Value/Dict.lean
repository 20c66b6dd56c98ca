import Stencil.Value.Equality

/-!
# Dictionaries

A dictionary is the list of its entries in insertion order. Writing to a key that is present keeps
the key and its place, and replaces the value.
-/

namespace Stencil

/-- The entries of a dictionary in insertion order. -/
abbrev Entries := List (Value × Value)

namespace Entries

/-- The value under a key. -/
def get? (entries : Entries) (key : Value) : Option Value :=
  (entries.find? fun e => e.1.same key).map (·.2)

/-- Writes a value under a key. -/
def insert : Entries → Value → Value → Entries
  | [], key, value => [(key, value)]
  | (k, v) :: rest, key, value =>
    if k.same key then (k, value) :: rest else (k, v) :: insert rest key value

end Entries

mutual

/-- The part of a value that keeps it from being a key: lists and dictionaries, also inside a
tuple. -/
def Value.unhashablePart? : Value → Option Value
  | .list items => some (.list items)
  | .dict entries => some (.dict entries)
  | .tuple items => unhashableAmong? items
  | _ => none

/-- The first part of several values that keeps them from being keys. -/
def unhashableAmong? : List Value → Option Value
  | [] => none
  | v :: vs => v.unhashablePart?.or (unhashableAmong? vs)

end

end Stencil
