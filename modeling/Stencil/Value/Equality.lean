import Stencil.Value.Basic

/-!
# Equality of values

`Value.same` is the equality that scripts test and dictionaries look keys up by. Truth values equal
the integers zero and one, dictionaries are equal whatever the order of their entries, and
progressions are equal when their elements are. Callables, contexts and iterators are equal to
themselves only. Every value is the same as itself.
-/

namespace Stencil

mutual

/-- Whether two values are equal. -/
def Value.same : Value → Value → Bool
  | .null, .null => true
  | .bool a, .bool b => a == b
  | .bool a, .int j => (if a then 1 else 0) == j
  | .int i, .bool b => i == (if b then 1 else 0)
  | .int i, .int j => i == j
  | .str s, .str t => s == t
  | .list xs, .list ys => allSame xs ys
  | .tuple xs, .tuple ys => allSame xs ys
  | .dict es, .dict fs => es.length == fs.length && allPresent es fs
  | .bytes a, .bytes b => a == b
  | .range p, .range q => p.same q
  | .iterator a, .iterator b => a == b
  | .function f, .function g => f.id == g.id
  | .applied a _ _, .applied b _ _ => a == b
  | .context c, .context d => c.id == d.id
  | .shape s, .shape t => s == t
  | _, _ => false

/-- Whether two lists agree element by element. -/
def allSame : List Value → List Value → Bool
  | [], [] => true
  | x :: xs, y :: ys => x.same y && allSame xs ys
  | _, _ => false

/-- Whether every entry of the first dictionary is one of the second. -/
def allPresent : List (Value × Value) → List (Value × Value) → Bool
  | [], _ => true
  | (k, v) :: es, fs => fs.any (fun f => k.same f.1 && v.same f.2) && allPresent es fs

end

mutual

/-- Every value is the same as itself. -/
theorem Value.same_self : ∀ v : Value, v.same v = true
  | .null => by simp [Value.same]
  | .bool b => by simp [Value.same]
  | .int i => by simp [Value.same]
  | .str s => by simp [Value.same]
  | .list xs => by simp [Value.same, allSame_self xs]
  | .tuple xs => by simp [Value.same, allSame_self xs]
  | .dict es => by simp [Value.same, allPresent_of_subset es es fun _ he => he]
  | .bytes a => by simp [Value.same]
  | .range p => by simp [Value.same, Progression.same]
  | .iterator a => by simp [Value.same]
  | .function f => by simp [Value.same]
  | .applied a _ _ => by simp [Value.same]
  | .context c => by simp [Value.same]
  | .shape s => by simp [Value.same]

/-- Every list agrees with itself. -/
theorem allSame_self : ∀ xs : List Value, allSame xs xs = true
  | [] => by simp [allSame]
  | x :: xs => by simp [allSame, x.same_self, allSame_self xs]

/-- The entries of a dictionary are present in one that has them all. -/
theorem allPresent_of_subset : ∀ es fs : List (Value × Value), (∀ e ∈ es, e ∈ fs) →
    allPresent es fs = true
  | [], _, _ => by simp [allPresent]
  | (k, v) :: es, fs, h => by
    have hrest := allPresent_of_subset es fs fun e he => h e (List.mem_cons_of_mem _ he)
    simp only [allPresent, hrest, Bool.and_true, List.any_eq_true, Bool.and_eq_true]
    exact ⟨(k, v), h _ (List.mem_cons_self ..), k.same_self, v.same_self⟩

end

end Stencil
