import Stencil.Value.Basic

/-!
# Values that can be written

An integer of more than 4300 digits is never written out. A value can be written where its source
form holds none (`Value.isWritable`), and shown as a result where every bound callable that is part
of it can be written (`Value.isShowable`).
-/

namespace Stencil

/-- The largest number of digits that are written. -/
def Value.digitLimit : Nat := 4300

/-- The first natural number that has too many digits. -/
def Value.writeBound : Nat := Nat.pow 10 Value.digitLimit

/-- Whether an integer can be written. -/
def isShort (i : Int) : Bool :=
  i.natAbs < Value.writeBound

mutual

/-- Whether the source form of a value can be written. -/
def Value.isWritable : Value → Bool
  | .int i => isShort i
  | .list items => areWritable items
  | .tuple items => areWritable items
  | .dict entries => entriesWritable entries
  | .range p => isShort p.start && isShort p.stop && isShort p.step
  | .applied _ _ bound => areWritable bound
  | .context c => c.isWritable
  | _ => true

/-- Whether the source form of a context can be written. -/
def Context.isWritable : Context → Bool
  | ⟨_, data, _, index, name, _⟩ => data.isWritable && index.isWritable && name.isWritable

/-- Whether the source forms of several values can be written. -/
def areWritable : List Value → Bool
  | [] => true
  | v :: vs => v.isWritable && areWritable vs

/-- Whether the source forms of dictionary entries can be written. -/
def entriesWritable : List (Value × Value) → Bool
  | [] => true
  | (k, v) :: es => k.isWritable && v.isWritable && entriesWritable es

end

mutual

/-- Whether a value can be shown as a result. -/
def Value.isShowable : Value → Bool
  | .list items => areShowable items
  | .tuple items => areShowable items
  | .dict entries => entriesShowable entries
  | .applied id f bound => (Value.applied id f bound).isWritable
  | .context c => c.isShowable
  | _ => true

/-- Whether a context can be shown, with the data of those above it. -/
def Context.isShowable : Context → Bool
  | ⟨_, data, parent, index, name, _⟩ =>
    data.isShowable && index.isShowable && name.isShowable && lineageShowable parent

/-- Whether the data of the contexts from one upward can be shown. -/
def lineageShowable : Option Context → Bool
  | none => true
  | some ⟨_, data, parent, _, _, _⟩ => data.isShowable && lineageShowable parent

/-- Whether several values can be shown. -/
def areShowable : List Value → Bool
  | [] => true
  | v :: vs => v.isShowable && areShowable vs

/-- Whether dictionary entries can be shown. -/
def entriesShowable : List (Value × Value) → Bool
  | [] => true
  | (k, v) :: es => k.isShowable && v.isShowable && entriesShowable es

end

end Stencil
