/-!
# Arithmetic progressions

A progression is the finite run of integers from `start` in equal steps, up to `stop` and without
it. Its elements are computed on demand, so a long one costs nothing until it is walked.
-/

namespace Stencil

/-- The integers `start`, `start + step`, … that lie before `stop`. -/
structure Progression where
  /-- The first element, if there is one. -/
  start : Int
  /-- The bound that is never reached. -/
  stop : Int
  /-- The distance between neighbours; zero is refused where progressions are made. -/
  step : Int
  deriving DecidableEq, Repr

namespace Progression

/-- The number of elements. -/
def length (p : Progression) : Nat :=
  if 0 < p.step then ((p.stop - p.start + p.step - 1) / p.step).toNat
  else if p.step < 0 then ((p.start - p.stop - p.step - 1) / -p.step).toNat
  else 0

/-- The element at a position, computed without regard to the length. -/
def element (p : Progression) (i : Nat) : Int :=
  p.start + i * p.step

/-- The element at a position inside the progression. -/
def get? (p : Progression) (i : Nat) : Option Int :=
  if i < p.length then some (p.element i) else none

/-- All elements. -/
def toList (p : Progression) : List Int :=
  (List.range p.length).map p.element

@[simp] theorem length_toList (p : Progression) : p.toList.length = p.length := by
  simp [toList]

/-- An element computed on demand is the one in its place. -/
@[simp] theorem getElem?_toList (p : Progression) (i : Nat) : p.toList[i]? = p.get? i := by
  by_cases hi : i < p.length
  · simp [toList, get?, hi]
  · simp [toList, get?, hi]

/-- Progressions are the same when their elements are. -/
def same (p q : Progression) : Bool :=
  p.length == q.length &&
    (p.length == 0 || p.start == q.start && (p.length == 1 || p.step == q.step))

end Progression

end Stencil
