import Stencil.Value.Equality

/-!
# Equality of values that share parts

A list can hold one value many times, so that walking it to the leaves takes time exponential in its
depth. `Value.equals` is `Value.same` (`Value.equals_eq_same`), but takes a part for equal at sight
where both sides hold the very same value.
-/

namespace Stencil

mutual

/-- Decides whether two values are equal. -/
def Value.decideSame : (a b : Value) → { r : Bool // r = a.same b }
  | .list xs, .list ys =>
    ⟨(decideAllSame xs ys).1, by rw [(decideAllSame xs ys).2]; simp [Value.same]⟩
  | .tuple xs, .tuple ys =>
    ⟨(decideAllSame xs ys).1, by rw [(decideAllSame xs ys).2]; simp [Value.same]⟩
  | .dict es, .dict fs =>
    ⟨es.length == fs.length && (decideAllPresent es fs).1, by
      rw [(decideAllPresent es fs).2]; simp [Value.same]⟩
  | a, b => ⟨a.same b, rfl⟩

/-- Decides whether two lists agree element by element. -/
def decideAllSame : (xs ys : List Value) → { r : Bool // r = allSame xs ys }
  | [], [] => ⟨true, by simp [allSame]⟩
  | x :: xs, y :: ys =>
    have hself : x = y → (x.decideSame y).1 = true := fun h => by
      rw [(x.decideSame y).2, h, y.same_self]
    have hall : ((x.decideSame y).1 && (decideAllSame xs ys).1) = allSame (x :: xs) (y :: ys) := by
      rw [(x.decideSame y).2, (decideAllSame xs ys).2, allSame]
    ⟨withPtrEq x y (fun _ => (x.decideSame y).1) hself && (decideAllSame xs ys).1, hall⟩
  | [], _ :: _ => ⟨false, by simp [allSame]⟩
  | _ :: _, [] => ⟨false, by simp [allSame]⟩

/-- Decides whether every entry of the first dictionary is one of the second. -/
def decideAllPresent : (es fs : List (Value × Value)) → { r : Bool // r = allPresent es fs }
  | [], _ => ⟨true, by simp [allPresent]⟩
  | (k, v) :: es, fs =>
    have hself : ∀ w, v = w → (v.decideSame w).1 = true := fun w h => by
      rw [(v.decideSame w).2, h, w.same_self]
    have hany : (fs.any fun f => (k.decideSame f.1).1 && (v.decideSame f.2).1) =
        fs.any fun f => k.same f.1 && v.same f.2 := by
      congr 1
      funext f
      rw [(k.decideSame f.1).2, (v.decideSame f.2).2]
    have hall : ((fs.any fun f => (k.decideSame f.1).1 && (v.decideSame f.2).1) &&
        (decideAllPresent es fs).1) = allPresent ((k, v) :: es) fs := by
      rw [hany, (decideAllPresent es fs).2, allPresent]
    ⟨(fs.any fun f =>
        (k.decideSame f.1).1 && withPtrEq v f.2 (fun _ => (v.decideSame f.2).1) (hself f.2)) &&
      (decideAllPresent es fs).1, hall⟩

end

namespace Value

/-- Whether two values are equal, decided without walking parts that they share. -/
def equals (a b : Value) : Bool :=
  withPtrEq a b (fun _ => (a.decideSame b).1) fun h => by
    rw [(a.decideSame b).2, h, b.same_self]

/-- Deciding equality without walking shared parts makes no difference. -/
@[simp] theorem equals_eq_same (a b : Value) : a.equals b = a.same b :=
  (a.decideSame b).2

end Value

end Stencil
