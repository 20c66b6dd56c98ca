import Stencil.Proofs.Observation
import Stencil.Proofs.Outcome
import Stencil.Proofs.Provenance

/-!
# Rendering one leaf after the other

No leaf, a single one and several are rendered in ways of their own. All of them come to one fold
over the leaves, whose step (`Context.appendLeaf`) says what a leaf does to the text in front of it:
it is called once if it can be called, a text is appended, null adds nothing, and what else a leaf
comes to is refused. The refusal names the leaf, and not what it came to. Only a leaf that holds an
integer too long to write cannot be named, and this is what is reported then. What the fold does not
tell is that several leaves are iterated over: one of them that fails with the sign of the end of an
iteration is not taken at its word.
-/

namespace Stencil

namespace Context

/-- What becomes of a text by what a leaf behind it comes to. -/
def appendOutcome (text : String) (leaf : Value) : Value → Action String
  | .str piece => pure (text ++ piece)
  | .null => pure text
  | outcome => throw (.notText leaf outcome)

/-- What becomes of a text by a leaf behind it. A leaf that can be called is called once, with the
context and its data; any other is taken as it is. -/
def appendLeaf (h : Host) (c : Context) (text : String) (leaf : Value) : Action String :=
  if leaf.isCallable then leaf.call h [.context c, c.data] >>= appendOutcome text leaf
  else appendOutcome text leaf leaf

section

variable {h : Host} {c : Context} {text : String} {leaf outcome : Value} {leaves : List Value}
  {s t : State} {e : Failure}

/-- What a leaf comes to adds to a text what it is by itself. -/
theorem appendOutcome_eq (text : String) (leaf outcome : Value) :
    appendOutcome text leaf outcome = (text ++ ·) <$> appendOutcome "" leaf outcome := by
  cases outcome with
  | null => simp [appendOutcome]
  | str piece => simp [appendOutcome]
  | _ => rfl

/-- A leaf is rendered by appending it to nothing. -/
theorem renderLeaf_eq (h : Host) (c : Context) (leaf : Value) :
    c.renderLeaf h leaf = c.appendLeaf h "" leaf := by
  have houtcome : c.renderLeaf h leaf =
      leaf.resolve h [.context c, c.data] >>= appendOutcome "" leaf := by
    rw [renderLeaf]
    apply bind_congr
    intro outcome
    cases outcome with
    | str piece => simp [appendOutcome]
    | _ => rfl
  rw [houtcome, Value.resolve, appendLeaf]
  split
  · rfl
  · rw [pure_bind]

/-- A leaf is appended by appending what it renders to. -/
theorem appendLeaf_eq (h : Host) (c : Context) (text : String) (leaf : Value) :
    c.appendLeaf h text leaf = (text ++ ·) <$> c.renderLeaf h leaf := by
  rw [renderLeaf_eq, appendLeaf, appendLeaf]
  split
  · rw [map_bind]
    apply bind_congr
    intro outcome
    exact appendOutcome_eq text leaf outcome
  · exact appendOutcome_eq text leaf leaf

/-- Whichever way is taken, leaves are rendered by appending one after the other. -/
theorem renderLeaves_eq_foldlM (h : Host) (c : Context) (leaves : List Value) :
    c.renderLeaves h leaves = (leaves.foldlM (c.appendLeaf h) "").among leaves.length := by
  have hstep : c.appendLeaf h = fun text leaf => (text ++ ·) <$> c.renderLeaf h leaf := by
    funext text leaf
    exact appendLeaf_eq h c text leaf
  rw [renderLeaves_eq_among, hstep, ← map_append_renderEach]
  simp only [String.empty_append, id_map']

/-- Leaves that are rendered have the text that comes of appending them. -/
theorem run_renderLeaves_eq_ok_iff_foldlM :
    (c.renderLeaves h leaves).run s = .ok text t ↔
      (leaves.foldlM (c.appendLeaf h) "").run s = .ok text t := by
  rw [renderLeaves_eq_foldlM, Action.run_among_eq_ok_iff]

/-- What a leaf that was called comes to is appended or refused as it is, in the state of the call:
a list or tuple is not flattened and a callable is not called. -/
theorem run_appendLeaf_eq_error (hleaf : leaf.isCallable = true)
    (hcall : (leaf.call h [.context c, c.data]).run s = .ok outcome t)
    (houtcome : (outcome.isSequence || outcome.isCallable) = true) (text : String) :
    (c.appendLeaf h text leaf).run s = .error (.notText leaf outcome) t := by
  rw [appendLeaf, if_pos hleaf, EStateM.run_bind, hcall]
  cases outcome with
  | list items => rfl
  | tuple items => rfl
  | function f => rfl
  | applied id f bound => rfl
  | _ => cases houtcome

end

end Context

namespace Failure

/-- A refused leaf is named in the report, with the type of what it came to, if it can be
written. -/
theorem report_notText (leaf outcome : Value) :
    (Failure.notText leaf outcome).report =
      if leaf.isWritable then
        ("TypeError", "template " ++ leaf.source ++ " rendered " ++ outcome.typeName ++
          ", expected str")
      else ("ValueError", Failure.unwritable.message) := by
  cases hleaf : leaf.isWritable with
  | true =>
    have hsettled : (Failure.notText leaf outcome).settled = .notText leaf outcome := by
      simp [settled, shown, hleaf]
    rw [report, hsettled, if_pos rfl]
    rfl
  | false =>
    have hsettled : (Failure.notText leaf outcome).settled = .unwritable := by
      simp [settled, shown, hleaf]
    rw [report, hsettled, if_neg Bool.false_ne_true]
    rfl

end Failure

/-- A leaf that logs a mark and returns a list of the data. -/
def listingLeaf : Value :=
  .function ⟨0, "leaf", none, .apply .last [.one (.apply .log [.one (.str "leaf")]),
    .one (.apply .list [.one (.argument 1 0)])], []⟩

/-- An integer with one digit too many to be written. -/
def longLeaf : Value := .int (.ofNat Value.writeBound)

/-- A leaf too long to be written is refused, but the report does not name it. -/
theorem longLeaf_is_refused_unnamed :
    ∃ e, ((Context.ofData 0 (.str "d")).renderLeaves (.ofDepth 1) [longLeaf]).run default =
        .error e default ∧
      e.report ≠ ("TypeError", "template " ++ longLeaf.source ++ " rendered " ++
        longLeaf.typeName ++ ", expected str") := by
  refine ⟨.notText longLeaf longLeaf, rfl, ?_⟩
  have hlong : longLeaf.isWritable = false := Value.isWritable_eq_false_of_le (Nat.le_refl _)
  rw [Failure.report_notText, hlong, if_neg Bool.false_ne_true]
  intro hreport
  have hkind : "ValueError" = "TypeError" := congrArg Prod.fst hreport
  exact absurd hkind (by decide)

end Stencil
