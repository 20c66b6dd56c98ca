import Stencil.Failure
import Stencil.Value.Sharing

/-!
# Arithmetic and order

Sums, remainders and the strict order. Truth values count as the integers zero and one; sequences of
one kind can follow each other, and are ordered by the first elements that differ.
-/

namespace Stencil

namespace Value

/-- The sum of two integers, or one sequence after another of its kind. -/
def add (a b : Value) : Except Failure Value :=
  match a, b with
  | .str s, .str t => .ok (.str (s ++ t))
  | .list xs, .list ys => .ok (.list (xs ++ ys))
  | .tuple xs, .tuple ys => .ok (.tuple (xs ++ ys))
  | .bytes xs, .bytes ys => .ok (.bytes (xs ++ ys))
  | .str _, _ | .list _, _ | .tuple _, _ | .bytes _, _ => .error (.notConcatenable a b)
  | _, _ =>
    match a.toInt?, b.toInt? with
    | some i, some j => .ok (.int (i + j))
    | _, _ => .error (.uncombinable "+" a b)

/-- Whether an operand of a text or byte string without placeholders may go unused: one that can be
looked up in, but for texts and what the text itself is. -/
def isSpare (a b : Value) : Bool :=
  match b with
  | .list _ | .dict _ | .range _ => true
  | .bytes _ => !a.isBytes
  | .tuple items => items.isEmpty
  | _ => false

/-- A text or byte string with an operand in its places, of which it may have none. -/
def fill (a b : Value) (hasPlaces : Bool) : Except Failure Value :=
  if hasPlaces then .error .badOperands
  else if a.isSpare b then .ok a
  else .error (.unplaced a)

/-- The remainder of two integers, which has the sign of the divisor. -/
def modulo (a b : Value) : Except Failure Value :=
  match a with
  | .str s => a.fill b (s.toList.contains '%')
  | .bytes content => a.fill b (content.contains 0x25)
  | _ =>
    match a.toInt?, b.toInt? with
    | some _, some 0 => .error .moduloByZero
    | some i, some j => .ok (.int (i.fmod j))
    | _, _ => .error (.uncombinable "%" a b)

end Value

mutual

/-- Whether a value comes before another. Texts are ordered by their characters and byte strings by
their bytes. -/
def Value.less : Value → Value → Except Failure Bool
  | .str s, .str t => .ok (decide (s < t))
  | .bytes xs, .bytes ys => .ok (decide (xs < ys))
  | .list xs, .list ys => lessAll xs ys
  | .tuple xs, .tuple ys => lessAll xs ys
  | a, b =>
    match a.toInt?, b.toInt? with
    | some i, some j => .ok (decide (i < j))
    | _, _ => .error (.unordered a b)

/-- Whether a list comes before another: the first elements that differ decide, and without any the
shorter list comes first. -/
def lessAll : List Value → List Value → Except Failure Bool
  | _, [] => .ok false
  | [], _ :: _ => .ok true
  | x :: xs, y :: ys => if x.equals y then lessAll xs ys else x.less y

end

end Stencil
