import Stencil.Proofs.Binding

/-!
# What the arity says about calls

The arity of a function is read off its parameters, and that of a function with leading arguments
bound for good off what the bound arguments leave of them. In how many steps they were bound plays
no part, only their number does. For a function whose required positional parameters stand first the
arity is a number that follows from three: those of the positional parameters, of the required ones
among them and of the bound arguments. From the arity it can be told which calls bind.
-/

namespace Stencil

namespace Value

/-- What a function becomes when leading arguments are bound for good, in no step, one or several:
the list holds the bound arguments. -/
inductive IsPartial (f : Closure) : List Value → Value → Prop
  | function : IsPartial f [] (.function f)
  | bind {bound leading : List Value} {v w : Value} {id : Nat} (hv : IsPartial f bound v)
      (hw : v.bindLeading? id leading = some w) : IsPartial f (bound ++ leading) w

namespace IsPartial

variable {f : Closure} {ps : Signature} {bound bound' : List Value} {v w : Value}

/-- It is the function itself, or one callable that holds all the bound arguments. -/
theorem eq_or_eq (hv : v.IsPartial f bound) :
    (v = .function f ∧ bound = []) ∨ ∃ id, v = .applied id f bound := by
  induction hv with
  | function => exact .inl ⟨rfl, rfl⟩
  | @bind bound leading v w id _ hw ih =>
    rcases ih with ⟨rfl, rfl⟩ | ⟨id', rfl⟩
    · obtain rfl := Option.some.inj hw
      exact .inr ⟨id, rfl⟩
    · obtain rfl := Option.some.inj hw
      exact .inr ⟨id, rfl⟩

theorem isCallable (hv : v.IsPartial f bound) : v.isCallable = true := by
  rcases hv.eq_or_eq with ⟨rfl, rfl⟩ | ⟨id, rfl⟩
  · rfl
  · rfl

/-- The parameters declared are those of the function. -/
theorem declared?_eq (hv : v.IsPartial f bound) : v.declared? = f.signature := by
  rcases hv.eq_or_eq with ⟨rfl, rfl⟩ | ⟨id, rfl⟩
  · rfl
  · rfl

theorem boundCount_eq (hv : v.IsPartial f bound) : v.boundCount = bound.length := by
  rcases hv.eq_or_eq with ⟨rfl, rfl⟩ | ⟨id, rfl⟩
  · rfl
  · rfl

/-- The signature is what is left of the parameters behind the bound arguments. -/
theorem signature?_eq_bind (hv : v.IsPartial f bound) :
    v.signature? = f.signature.bind fun ps => Signature.drop? ps bound.length := by
  rw [signature?_eq, hv.declared?_eq, hv.boundCount_eq]

/-- Only the number of bound arguments counts for the arity. -/
theorem arity_eq_arity (hv : v.IsPartial f bound) (hw : w.IsPartial f bound')
    (hlength : bound'.length = bound.length) : w.arity = v.arity := by
  rw [arity, arity, hv.signature?_eq_bind, hw.signature?_eq_bind, hlength]

/-- A call that binds runs the function on the bound arguments and those of the call. -/
theorem call_of_accepts (hv : v.IsPartial f bound) (h : Host) {arguments : List Value}
    (haccepts : v.accepts h arguments.length = true) :
    v.call h arguments = h.run f (bound ++ arguments) := by
  rcases hv.eq_or_eq with ⟨rfl, rfl⟩ | ⟨id, rfl⟩
  · rw [accepts, Option.isNone_iff_eq_none] at haccepts
    simp only [call, Closure.call, haccepts, List.nil_append]
  · rw [accepts, Option.isNone_iff_eq_none] at haccepts
    simp only [call, Closure.call, List.length_append, haccepts]

section

variable (hv : v.IsPartial f bound) (hf : f.signature = some ps) (hps : ps.RequiredFirst)
include hv hf hps

/-- The number that stands for the arity. -/
theorem arity_code_eq :
    v.arity.code =
      if ps.isVariadic then -1
      else if ps.capacity < bound.length then -2
      else max ((ps.requiredCount : Int) - bound.length) 0 := by
  rw [arity_of_declared? (hv.declared?_eq.trans hf) hps, hv.boundCount_eq]
  split
  · rfl
  · split
    · rfl
    · rw [Arity.code]
      omega

/-- Where nothing asks to be named, a call binds when its arguments and the bound ones are enough
and there is room for them. -/
theorem accepts_iff (hfillable : ps.hasUnfillable = false) (h : Host) (k : Nat) :
    v.accepts h k = true ↔
      (bound.length + k ≤ ps.capacity ∨ ps.isVariadic = true) ∧
        ps.requiredCount ≤ bound.length + k := by
  have hdeclared : v.declared? = some ps := hv.declared?_eq.trans hf
  rw [accepts_of_declared?_eq_some h hdeclared, Signature.accepts_iff hps, hv.boundCount_eq]
  simp only [hfillable, and_true]

end

end IsPartial

end Value

/-- The arity of a function with leading arguments bound for good, in whatever steps: a mark where
the function takes any number of arguments, another one where more are bound than there are
positional parameters, and else the number of required positional parameters that are left. Unless
some parameter has to be given by name, calls bind with as many arguments as a number says, and up
to as many as there is room for; at the first mark with all that make up for what is required, and
at the second never. A call that binds runs the function, and any other fails before. -/
theorem arity_tells_which_calls_bind {f : Closure} {ps : Signature} (hf : f.signature = some ps)
    (hps : ps.RequiredFirst) {bound : List Value} {v : Value} (hv : v.IsPartial f bound) :
    (v.arity.code =
      if ps.isVariadic then -1
      else if ps.capacity < bound.length then -2
      else max ((ps.requiredCount : Int) - bound.length) 0) ∧
    (∀ (bound' : List Value) (w : Value), w.IsPartial f bound' →
      bound'.length = bound.length → w.arity = v.arity) ∧
    (ps.hasUnfillable = false → ∀ (h : Host) (k : Nat),
      (∀ a : Nat, v.arity.code = a →
        (v.accepts h k = true ↔ a ≤ k ∧ (k : Int) ≤ ps.capacity - bound.length)) ∧
      (v.arity.code = -1 → (v.accepts h k = true ↔ ps.requiredCount ≤ k + bound.length)) ∧
      (v.arity.code = -2 → v.accepts h k = false)) ∧
    ∀ h arguments,
      (v.accepts h arguments.length = true → v.call h arguments = h.run f (bound ++ arguments)) ∧
      (v.accepts h arguments.length = false →
        ∃ cause, v.call h arguments = throw (.unbound cause)) := by
  have hcode := hv.arity_code_eq hf hps
  refine ⟨hcode, fun bound' w hw hlength => hv.arity_eq_arity hw hlength, ?_, ?_⟩
  · intro hfillable h k
    have haccepts := hv.accepts_iff hf hps hfillable h k
    cases hvariadic : ps.isVariadic with
    | true =>
      rw [hvariadic, if_pos rfl] at hcode
      rw [hvariadic] at haccepts
      refine ⟨fun a ha => ?_, fun _ => ?_, fun hmark => ?_⟩
      · omega
      · rw [haccepts, Nat.add_comm]
        simp only [or_true, true_and]
      · omega
    | false =>
      rw [hvariadic, if_neg Bool.false_ne_true] at hcode
      simp only [hvariadic, Bool.false_eq_true, or_false] at haccepts
      by_cases hless : ps.capacity < bound.length
      · rw [if_pos hless] at hcode
        refine ⟨fun a ha => ?_, fun hmark => ?_, fun _ => ?_⟩
        · omega
        · omega
        · rw [← Bool.not_eq_true, haccepts]
          omega
      · rw [if_neg hless] at hcode
        refine ⟨fun a ha => ?_, fun hmark => ?_, fun hmark => ?_⟩
        · rw [haccepts]
          omega
        · omega
        · omega
  · intro h arguments
    exact ⟨hv.call_of_accepts h, Value.call_of_accepts_eq_false h hv.isCallable⟩

/-- With two arguments bound one after the other one of the required ones is left, and up to two can
be passed; with five bound none can. -/
theorem arity_tells_which_calls_bind_of_row :
    (Value.applied 2 headedRow [.str "h", .null]).arity.code = 1 ∧
    (∀ h k, (Value.applied 2 headedRow [.str "h", .null]).accepts h k = true ↔
      1 ≤ k ∧ (k : Int) ≤ 4 - 2) ∧
    ∀ h k, (boundRow [.null, .null, .null, .null, .null]).accepts h k = false := by
  have hone : (boundRow [.str "h"]).IsPartial headedRow [.str "h"] := .bind .function rfl
  have htwo : (Value.applied 2 headedRow [.str "h", .null]).IsPartial headedRow
      [.str "h", .null] := .bind hone rfl
  have hfive : (boundRow [.null, .null, .null, .null, .null]).IsPartial headedRow
      [.null, .null, .null, .null, .null] := .bind .function rfl
  obtain ⟨hcode, -, hcalls, -⟩ := arity_tells_which_calls_bind rfl (by decide) htwo
  obtain ⟨hmark, -, hnone, -⟩ := arity_tells_which_calls_bind rfl (by decide) hfive
  refine ⟨hcode.trans (by decide), fun h k => ?_, fun h k => ?_⟩
  · exact (hcalls (by decide) h k).1 1 (hcode.trans (by decide))
  · exact (hnone (by decide) h k).2.2 (hmark.trans (by decide))

end Stencil
