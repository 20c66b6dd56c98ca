import Stencil.Proofs.JoinRun

/-!
# Arity and binding

A parameter list is read in two ways. A call binds its arguments from the left, and the scan for the
arity counts required parameters. Where required positional parameters stand before defaulted ones,
a call binds exactly when its arguments are no fewer than those counted, no more than there is room
for, and nothing asks to be named. Leading arguments that are bound for good lower the count by
their number. So the shape that is read off a callback passes a number of arguments that binds,
unless no shape does. Only where there is no parameter list to read does the shape tell nothing: it
is the bare one then, and a callable that takes more arguments than two does not take it.
-/

namespace Stencil

namespace Signature

/-- No required positional parameter stands behind one with a default. -/
def RequiredFirst (ps : Signature) : Prop :=
  ps.Pairwise fun p q => q.isRequired = true → (p.isPositional && p.hasDefault) = false

instance (ps : Signature) : Decidable (RequiredFirst ps) :=
  inferInstanceAs (Decidable (List.Pairwise _ ps))

/-- Some parameter can only be given by name, and has to be. -/
def hasUnfillable (ps : Signature) : Bool :=
  ps.any Parameter.isUnfillable

section

variable {p : Parameter} {ps : Signature}

theorem requiredCount_cons (p : Parameter) (ps : Signature) :
    requiredCount (p :: ps) = requiredCount ps + if p.isRequired then 1 else 0 := by
  simp only [requiredCount, List.countP_cons]

theorem capacity_cons (p : Parameter) (ps : Signature) :
    capacity (p :: ps) = capacity ps + if p.isPositional then 1 else 0 := by
  simp only [capacity, List.countP_cons]

theorem isVariadic_cons (p : Parameter) (ps : Signature) :
    isVariadic (p :: ps) = (p.isVariadic || isVariadic ps) := by
  simp only [isVariadic, List.any_cons]

theorem hasUnfillable_cons (p : Parameter) (ps : Signature) :
    hasUnfillable (p :: ps) = (p.isUnfillable || hasUnfillable ps) := by
  simp only [hasUnfillable, List.any_cons]

/-- A parameter that is filled by position is not filled in another way. -/
theorem isPositional_cases (hp : p.isPositional = true) :
    p.isVariadic = false ∧ p.isUnfillable = false ∧ p.isRequired = !p.hasDefault := by
  obtain ⟨name, kind, hasDefault⟩ := p
  cases kind <;> simp_all [Parameter.isPositional, Parameter.isVariadic, Parameter.isUnfillable,
    Parameter.isRequired]

theorem isRequired_of_not_isPositional (hp : p.isPositional = false) : p.isRequired = false := by
  simp only [Parameter.isRequired, hp, Bool.false_and]

theorem RequiredFirst.tail (hps : RequiredFirst (p :: ps)) : RequiredFirst ps :=
  (List.pairwise_cons.mp hps).2

/-- Behind a positional parameter with a default no parameter is required. -/
theorem RequiredFirst.requiredCount_eq_zero (hps : RequiredFirst (p :: ps))
    (hp : p.isPositional = true) (hd : p.hasDefault = true) : requiredCount ps = 0 := by
  refine List.countP_eq_zero.mpr fun q hq hr => ?_
  have hnot := (List.pairwise_cons.mp hps).1 q hq hr
  simp only [hp, hd, Bool.and_self, Bool.true_eq_false] at hnot

/-- Without arguments nothing stays unfilled where nothing is required. -/
theorem firstUnfilled?_zero (ps : Signature) :
    firstUnfilled? ps 0 = none ↔ requiredCount ps = 0 ∧ hasUnfillable ps = false := by
  induction ps with
  | nil => exact iff_of_true rfl ⟨rfl, rfl⟩
  | cons p ps ih =>
    rw [firstUnfilled?, requiredCount_cons, hasUnfillable_cons]
    cases p.isRequired <;> cases p.isUnfillable <;> simp [ih]

/-- Arguments fill the required parameters, as these stand first, when they are not fewer. -/
theorem firstUnfilled?_eq_none_iff (hps : RequiredFirst ps) (k : Nat) :
    firstUnfilled? ps k = none ↔ requiredCount ps ≤ k ∧ hasUnfillable ps = false := by
  induction ps generalizing k with
  | nil => simp [firstUnfilled?, requiredCount, hasUnfillable]
  | cons p ps ih =>
    cases k with
    | zero => rw [firstUnfilled?_zero, Nat.le_zero]
    | succ k =>
      rw [firstUnfilled?, requiredCount_cons, hasUnfillable_cons]
      cases hp : p.isPositional with
      | true =>
        obtain ⟨-, hfillable, hrequired⟩ := isPositional_cases hp
        simp only [ite_true, ih hps.tail, hfillable, hrequired, Bool.false_or]
        -- A parameter with a default uses up an argument, but nothing behind it is required.
        cases hd : p.hasDefault with
        | true => simp [hps.requiredCount_eq_zero hp hd]
        | false => simp
      | false =>
        rw [isRequired_of_not_isPositional hp]
        cases p.isUnfillable with
        | true => simp
        | false => simp [ih hps.tail]

/-- A call binds when its arguments fit in and fill what is required, and nothing asks to be
named. -/
theorem accepts_iff (hps : RequiredFirst ps) (k : Nat) :
    accepts ps k = true ↔ (k ≤ capacity ps ∨ isVariadic ps = true) ∧ requiredCount ps ≤ k ∧
      hasUnfillable ps = false := by
  rw [← firstUnfilled?_eq_none_iff hps, accepts, bindError?, Option.isNone_iff_eq_none]
  cases isVariadic ps with
  | true => simp
  | false =>
    rcases Nat.lt_or_ge (capacity ps) k with hlt | hge
    · simp [hlt, Nat.not_le.mpr hlt]
    · simp [hge, Nat.not_lt.mpr hge]

theorem arityFrom_eq (count : Nat) (ps : Signature) :
    arityFrom count ps =
      if isVariadic ps then .variadic else .required (count + requiredCount ps) := by
  induction ps generalizing count with
  | nil => rfl
  | cons p ps ih =>
    rw [arityFrom, isVariadic_cons, requiredCount_cons]
    cases p.isVariadic with
    | true => rfl
    | false =>
      simp only [Bool.false_eq_true, ite_false, Bool.false_or, ih]
      cases p.isRequired <;> simp [Nat.add_assoc, Nat.add_comm]

/-- The arity is the number of required parameters, unless there is a variadic one. -/
theorem arity_eq (ps : Signature) :
    arity ps = if isVariadic ps then .variadic else .required (requiredCount ps) := by
  rw [arity, arityFrom_eq, Nat.zero_add]

/-- Arguments that are bound for good leave no readable signature when they do not fit in. -/
theorem drop?_eq_none_iff (ps : Signature) (n : Nat) :
    drop? ps n = none ↔ capacity ps < n ∧ isVariadic ps = false := by
  induction ps generalizing n with
  | nil => cases n <;> simp [drop?, capacity, isVariadic]
  | cons p ps ih =>
    cases n with
    | zero => simp [drop?]
    | succ n =>
      rw [drop?, capacity_cons, isVariadic_cons]
      cases hp : p.isPositional with
      | true =>
        obtain ⟨hvariadic, -⟩ := isPositional_cases hp
        simp [ih, hvariadic]
      | false =>
        cases p.isVariadic with
        | true => simp
        | false => simp [ih]

/-- A variadic parameter stays when arguments are bound for good. -/
theorem isVariadic_of_drop? {qs : Signature} {n : Nat} (hdrop : drop? ps n = some qs) :
    isVariadic qs = isVariadic ps := by
  induction ps generalizing n qs with
  | nil =>
    cases n with
    | zero =>
      cases hdrop
      rfl
    | succ n => cases hdrop
  | cons p ps ih =>
    cases n with
    | zero =>
      cases hdrop
      rfl
    | succ n =>
      rw [drop?] at hdrop
      cases hp : p.isPositional with
      | true =>
        simp only [hp, ite_true] at hdrop
        obtain ⟨hvariadic, -⟩ := isPositional_cases hp
        rw [isVariadic_cons, hvariadic, Bool.false_or, ih hdrop]
      | false =>
        cases hvariadic : p.isVariadic with
        | true =>
          simp only [hp, hvariadic, Bool.false_eq_true, ite_false, ite_true] at hdrop
          cases hdrop
          rfl
        | false =>
          simp only [hp, hvariadic, Bool.false_eq_true, ite_false] at hdrop
          obtain ⟨rest, hrest, rfl⟩ := Option.map_eq_some_iff.mp hdrop
          rw [isVariadic_cons, isVariadic_cons, ih hrest]

/-- Arguments that are bound for good fill required parameters first. -/
theorem requiredCount_of_drop? {qs : Signature} {n : Nat} (hps : RequiredFirst ps)
    (hvariadic : isVariadic ps = false) (hdrop : drop? ps n = some qs) :
    requiredCount qs = requiredCount ps - n := by
  induction ps generalizing n qs with
  | nil =>
    cases n with
    | zero =>
      cases hdrop
      rfl
    | succ n => cases hdrop
  | cons p ps ih =>
    obtain ⟨hp', hvariadic'⟩ : p.isVariadic = false ∧ isVariadic ps = false := by
      simpa [isVariadic_cons] using hvariadic
    cases n with
    | zero =>
      cases hdrop
      rfl
    | succ n =>
      rw [drop?] at hdrop
      cases hp : p.isPositional with
      | true =>
        simp only [hp, ite_true] at hdrop
        obtain ⟨-, -, hrequired⟩ := isPositional_cases hp
        rw [ih hps.tail hvariadic' hdrop, requiredCount_cons, hrequired]
        cases hd : p.hasDefault with
        | true => simp [hps.requiredCount_eq_zero hp hd]
        | false => simp
      | false =>
        simp only [hp, hp', Bool.false_eq_true, ite_false] at hdrop
        obtain ⟨rest, hrest, rfl⟩ := Option.map_eq_some_iff.mp hdrop
        rw [requiredCount_cons, requiredCount_cons, isRequired_of_not_isPositional hp,
          ih hps.tail hvariadic' hrest]
        rfl

end

end Signature

namespace Shape

/-- The shape for a number of required parameters passes as many arguments, but at least two. -/
theorem argumentCount_detect_required {count : Nat} (hcount : count ≤ 4) (mode : Mode) :
    (detect (.required count) mode).argumentCount = max 2 count := by
  match count with
  | 0 | 1 | 2 => rfl
  | 3 => cases mode <;> rfl
  | 4 => rfl
  | n + 5 => omega

/-- A shape passes two, three or four arguments. -/
theorem argumentCount_bounds (shape : Shape) :
    2 ≤ shape.argumentCount ∧ shape.argumentCount ≤ 4 := by
  cases shape <;> decide

end Shape

namespace Value

/-- The parameters that the function of a callable declares, whatever is bound for good. -/
def declared? : Value → Option Signature
  | .function f => f.signature
  | .applied _ f _ => f.signature
  | _ => none

/-- The number of arguments that are bound for good. -/
def boundCount : Value → Nat
  | .applied _ _ bound => bound.length
  | _ => 0

/-- A function that declares required positional parameters first, or whose parameters cannot be
read; or what comes of one by binding leading arguments for good, any number of times. -/
inductive IsCallback : Value → Prop
  | function (f : Closure) (hf : ∀ ps, f.signature = some ps → Signature.RequiredFirst ps) :
      IsCallback (.function f)
  | bound {v w : Value} {id : Nat} {leading : List Value} (hv : IsCallback v)
      (hw : v.bindLeading? id leading = some w) : IsCallback w

section

variable {v w : Value}

/-- Arguments that are bound for good count among those that the parameters have to take. -/
theorem accepts_of_declared?_eq_some (h : Host) {ps : Signature} (hd : v.declared? = some ps)
    (k : Nat) :
    v.accepts h k = Signature.accepts ps (v.boundCount + k) := by
  cases v <;> simp_all [declared?, accepts, boundCount, Closure.bindError?, Signature.accepts]

/-- The signature is what the bound arguments leave of the declared parameters. -/
theorem signature?_eq (v : Value) :
    v.signature? = v.declared?.bind fun ps => Signature.drop? ps v.boundCount := by
  cases v with
  | function f =>
    cases hf : f.signature <;> simp [signature?, declared?, boundCount, hf, Signature.drop?]
  | _ => rfl

/-- Without parameters that can be read, the shape is the bare one. -/
theorem detectShape_of_declared?_eq_none (hd : v.declared? = none) (mode : Mode) :
    v.detectShape mode = .bare := by
  rw [detectShape, arity, signature?_eq, hd]
  rfl

/-- Where the declared parameters have the required ones first, the arity is told by the numbers of
parameters and of bound arguments. -/
theorem arity_of_declared? {ps : Signature} (hd : v.declared? = some ps) (hps : ps.RequiredFirst) :
    v.arity =
      if ps.isVariadic then .variadic
      else if ps.capacity < v.boundCount then .unknown
      else .required (ps.requiredCount - v.boundCount) := by
  rw [arity, signature?_eq, hd, Option.bind_some]
  cases hdrop : Signature.drop? ps v.boundCount with
  | none =>
    obtain ⟨hless, hvariadic⟩ := (Signature.drop?_eq_none_iff ps _).mp hdrop
    simp only [hvariadic, hless, Bool.false_eq_true, ite_false, ite_true]
  | some qs =>
    simp only [Signature.arity_eq, Signature.isVariadic_of_drop? hdrop]
    cases hvariadic : Signature.isVariadic ps with
    | true => rfl
    | false =>
      have hroom : ¬Signature.capacity ps < v.boundCount := by
        intro hless
        rw [(Signature.drop?_eq_none_iff ps _).mpr ⟨hless, hvariadic⟩] at hdrop
        cases hdrop
      rw [Signature.requiredCount_of_drop? hps hvariadic hdrop]
      simp only [Bool.false_eq_true, ite_false, hroom]

/-- Binding leading arguments changes nothing but their number. -/
theorem bindLeading?_spec {id : Nat} {leading : List Value}
    (hw : v.bindLeading? id leading = some w) :
    w.isCallable = true ∧ w.declared? = v.declared? ∧
      w.boundCount = v.boundCount + leading.length := by
  cases v with
  | function f =>
    cases hw
    exact ⟨rfl, rfl, (Nat.zero_add _).symm⟩
  | applied _ f bound =>
    cases hw
    exact ⟨rfl, rfl, List.length_append⟩
  | _ => cases hw

theorem IsCallback.isCallable (hv : v.IsCallback) : v.isCallable = true := by
  cases hv with
  | function f => rfl
  | bound _ hw => exact (bindLeading?_spec hw).1

/-- What a callback declares stands in order, however often arguments were bound. -/
theorem IsCallback.requiredFirst (hv : v.IsCallback) {ps : Signature} (hd : v.declared? = some ps) :
    ps.RequiredFirst := by
  induction hv with
  | function f hf => exact hf ps hd
  | bound _ hw ih => exact ih ((bindLeading?_spec hw).2.1 ▸ hd)

/-- A callback that takes two, three or four arguments takes as many as its shape passes, if it
takes two or declares what it takes. -/
theorem IsCallback.accepts_detectShape (hv : v.IsCallback) (h : Host) (mode : Mode) {k : Nat}
    (hk : k ≤ 4) (hk' : 2 ≤ k) (haccepts : v.accepts h k = true)
    (hbare : v.declared? = none → v.accepts h 2 = true) :
    v.accepts h (v.detectShape mode).argumentCount = true := by
  cases hd : v.declared? with
  | none =>
    rw [detectShape_of_declared?_eq_none hd]
    exact hbare hd
  | some ps =>
    have hps := hv.requiredFirst hd
    have harity := arity_of_declared? hd hps
    rw [accepts_of_declared?_eq_some h hd, Signature.accepts_iff hps] at haccepts ⊢
    obtain ⟨hroom, hfilled, hfillable⟩ := haccepts
    cases hvariadic : Signature.isVariadic ps with
    | true =>
      rw [hvariadic, if_pos rfl] at harity
      have hcount : (v.detectShape mode).argumentCount = 4 := by
        rw [detectShape, harity, Shape.detect, Shape.argumentCount]
      rw [hcount]
      exact ⟨.inr rfl, by omega, hfillable⟩
    | false =>
      simp only [hvariadic, Bool.false_eq_true, or_false] at hroom ⊢
      -- As a call binds, no more is bound for good than there is room for.
      have hfits : ¬Signature.capacity ps < v.boundCount := by omega
      rw [hvariadic, if_neg Bool.false_ne_true, if_neg hfits] at harity
      have hcount := Shape.argumentCount_detect_required
        (show Signature.requiredCount ps - v.boundCount ≤ 4 by omega) mode
      rw [detectShape, harity, hcount]
      exact ⟨by omega, by omega, hfillable⟩

/-- A call whose arguments are not taken fails before the function runs. -/
theorem call_of_accepts_eq_false (h : Host) (hv : v.isCallable = true) {arguments : List Value}
    (haccepts : v.accepts h arguments.length = false) :
    ∃ cause, v.call h arguments = throw (.unbound cause) := by
  cases v with
  | function f =>
    cases hf : f.bindError? h arguments.length with
    | none => simp [accepts, hf] at haccepts
    | some cause => exact ⟨cause, by simp only [call, Closure.call, hf]⟩
  | applied id f bound =>
    cases hf : f.bindError? h (bound.length + arguments.length) with
    | none => simp [accepts, hf] at haccepts
    | some cause => exact ⟨cause, by simp only [call, Closure.call, List.length_append, hf]⟩
  | _ => cases hv

end

end Value

namespace JoinCall

section

variable {h : Host} {j : JoinCall} {s t : State} {entry : Entry} {visited : List (Entry × Value)}

/-- Only items that can be walked over have an entry. -/
theorem isWalkable_of_ask {i : Nat} (hask : (j.ask h i).run s = .ok (some entry) t) :
    j.items.isWalkable j.mode = true := by
  obtain ⟨c, items, mode, spec⟩ := j
  cases mode with
  | mapping =>
    cases items with
    | dict => rfl
    | _ => cases hask
  | sequence =>
    cases items with
    | null | bool | int | function | applied | context | shape => cases hask
    | _ => rfl

theorem Reaches.isWalkable (hreach : j.Reaches h s visited entry t) :
    j.items.isWalkable j.mode = true := by
  obtain ⟨u, hwalk, hask⟩ := hreach
  cases hwalk with
  | nil => exact isWalkable_of_ask hask
  | cons hfirst => exact isWalkable_of_ask hfirst

/-- A join ends where its callback does not take the arguments of its shape. -/
theorem run_of_accepts_eq_false (hh : h.Lawful) (hreach : j.Reaches h s visited entry t)
    (hcallback : j.spec.callback.isCallable = true)
    (haccepts : j.spec.callback.accepts h (j.spec.resolveShape j.mode).argumentCount = false) :
    ∃ cause, (j.run h).run s = .error (.unbound cause) { t with nextId := t.nextId + 1 } := by
  rw [← Shape.length_arguments _ (.context (j.context.child t.nextId entry)) (.int entry.index)
    (.str entry.name) entry.item] at haccepts
  obtain ⟨cause, hcall⟩ := Value.call_of_accepts_eq_false h hcallback haccepts
  have hvisit : (j.visit h entry).run t =
      .error (.unbound cause) { t with nextId := t.nextId + 1 } :=
    run_visit_eq_error_iff.mpr (by rw [hcall]; rfl)
  exact ⟨cause, (run_eq_error_iff hh hreach.isWalkable).mpr
    (.inr (.inl ⟨visited, entry, t, hreach, hvisit⟩))⟩

end

end JoinCall

/-- A callback that takes two, three or four arguments takes as many as the shape that is read off
it passes, in both modes, if its parameters can be read. If they cannot, the shape is the bare one,
and what is passed is taken when two arguments are. So a join that is given no shape and comes to
its first call ends because this call does not bind exactly when the arguments of no shape would, or
when the parameters cannot be read and two arguments are not taken. -/
theorem detected_shape_binds {v : Value} (hv : v.IsCallback) (h : Host) :
    (∀ (mode : Mode) (k : Nat), 2 ≤ k → k ≤ 4 → v.accepts h k = true →
      (v.declared? = none → v.accepts h 2 = true) →
        v.accepts h (v.detectShape mode).argumentCount = true) ∧
    (v.declared? = none → ∀ mode : Mode, v.detectShape mode = .bare) ∧
    ∀ (j : JoinCall) (s t : State) (visited : List (Entry × Value)) (entry : Entry),
      h.Lawful → j.spec.callback = v → j.spec.shape = .null → j.Reaches h s visited entry t →
      (j.mode = j.items.joinMode → j.context.join h j.items j.spec = j.run h) ∧
      ((v.accepts h (j.spec.resolveShape j.mode).argumentCount = false ∧
          ∃ cause, (j.run h).run s =
            .error (.unbound cause) { t with nextId := t.nextId + 1 }) ↔
        (∀ shape : Shape, v.accepts h shape.argumentCount = false) ∨
          (v.declared? = none ∧ v.accepts h 2 = false)) := by
  refine ⟨fun mode k hk hk' => hv.accepts_detectShape h mode hk' hk,
    Value.detectShape_of_declared?_eq_none, ?_⟩
  rintro j s t visited entry hh rfl hshape hreach
  have hresolve : j.spec.resolveShape j.mode = j.spec.callback.detectShape j.mode := by
    rw [JoinSpec.resolveShape, hshape]
    rfl
  refine ⟨fun hmode => ?_, ?_, fun hnone => ?_⟩
  · obtain ⟨c, items, mode, spec⟩ := j
    obtain rfl : mode = items.joinMode := hmode
    refine c.join_eq_run h ?_ spec
    cases items with
    | null => cases hreach.isWalkable
    | _ => rfl
  · rintro ⟨hdetected, -⟩
    by_cases hopaque : j.spec.callback.declared? = none ∧ j.spec.callback.accepts h 2 = false
    · exact .inr hopaque
    · refine .inl fun shape => Bool.eq_false_iff.mpr fun haccepts => ?_
      obtain ⟨hleast, hmost⟩ := shape.argumentCount_bounds
      have hbare : j.spec.callback.declared? = none → j.spec.callback.accepts h 2 = true := by
        intro hd
        rw [← Bool.not_eq_false]
        exact fun htwo => hopaque ⟨hd, htwo⟩
      rw [hresolve, hv.accepts_detectShape h j.mode hmost hleast haccepts hbare] at hdetected
      cases hdetected
  · have hdetected : j.spec.callback.accepts h (j.spec.resolveShape j.mode).argumentCount =
        false := by
      rcases hnone with hnone | ⟨hd, htwo⟩
      · exact hnone _
      · rw [hresolve, Value.detectShape_of_declared?_eq_none hd]
        exact htwo
    exact ⟨hdetected, JoinCall.run_of_accepts_eq_false hh hreach hv.isCallable hdetected⟩

/-- A function of a header, a context, an element and a label that may be left out. -/
def headedRow : Closure :=
  ⟨0, "row", some [⟨"header", .positionalOnly, false⟩, ⟨"context", .positional, false⟩,
    ⟨"data", .positional, false⟩, ⟨"label", .positional, true⟩, ⟨"last", .keywordOnly, true⟩],
    .argument 2 0, []⟩

/-- The function with leading arguments bound for good. -/
def boundRow (leading : List Value) : Value := .applied 1 headedRow leading

theorem isCallback_boundRow (leading : List Value) : (boundRow leading).IsCallback :=
  have hrow : (Value.function headedRow).IsCallback :=
    .function headedRow (by rintro _ ⟨⟩; decide)
  hrow.bound (show (Value.function headedRow).bindLeading? 1 leading = some _ from rfl)

/-- A join over one element that is given no shape. -/
def rowJoin (callback : Value) : JoinCall :=
  ⟨.ofData 2 .null, .list [.str "a"], .sequence, ⟨.str ",", callback, .null, .null, .null⟩⟩

/-- With the header bound there are two arguments left to be required, and two are passed. With all
of them bound there is no room for two, nor for more, and a join ends at its first call. -/
theorem detected_shape_binds_of_bound :
    (boundRow [.str "h"]).accepts (Host.ofDepth 1)
        ((boundRow [.str "h"]).detectShape .mapping).argumentCount = true ∧
      ∃ cause, ((rowJoin (boundRow [.null, .null, .null])).run (Host.ofDepth 1)).run
        ⟨#[], #[], 3, []⟩ = .error (.unbound cause) ⟨#[], #[], 4, []⟩ := by
  have hone := detected_shape_binds (isCallback_boundRow [.str "h"]) (Host.ofDepth 1)
  have hall := detected_shape_binds (isCallback_boundRow [.null, .null, .null]) (Host.ofDepth 1)
  refine ⟨hone.1 .mapping 3 (by decide) (by decide) (by decide) nofun, ?_⟩
  have hjoin := hall.2.2 (rowJoin (boundRow [.null, .null, .null])) ⟨#[], #[], 3, []⟩
    ⟨#[], #[], 3, []⟩ [] _ (Host.ofDepth_lawful 1) rfl rfl ⟨_, .nil 0 _, rfl⟩
  exact (hjoin.2.mpr (.inl (by intro shape; cases shape <;> decide))).2

/-- A function that makes a date, and whose parameters cannot be read. -/
def dateFunction : Value := .function ⟨0, "date", none, .argument 2 0, []⟩

/-- A host whose functions without readable parameters take a year, a month and a day. -/
def dateHost : Host :=
  { Host.ofDepth 1 with
    refuses? := fun _ k =>
      match k with
      | 0 => some "function missing required argument 'year' (pos 1)"
      | 1 => some "function missing required argument 'month' (pos 2)"
      | 2 => some "function missing required argument 'day' (pos 3)"
      | 3 => none
      | k => some ("function takes at most 3 arguments (" ++ toString k ++ " given)") }

/-- A join of dates by the given shape, over one day. -/
def dateJoin (shape : Value) : JoinCall :=
  ⟨.ofData 2 .null, .list [.str "a"], .sequence, ⟨.str ",", dateFunction, .null, .null, shape⟩⟩

/-- A function that takes three arguments is called with two if its parameters cannot be read, and
a join without a shape fails though a shape of three arguments would do. -/
theorem dateFunction_gets_two_arguments :
    dateFunction.IsCallback ∧ dateFunction.accepts dateHost 3 = true ∧
      (∀ mode, dateFunction.accepts dateHost (dateFunction.detectShape mode).argumentCount =
        false) ∧
      ((dateJoin .null).run dateHost).run ⟨#[], #[], 3, []⟩ =
        .error (.unbound (.refused "function missing required argument 'day' (pos 3)"))
          ⟨#[], #[], 4, []⟩ ∧
      ((dateJoin (.shape .index)).run dateHost).run ⟨#[], #[], 3, []⟩ =
        .ok "a" ⟨#[], #[], 4, []⟩ := by
  refine ⟨.function _ nofun, rfl, fun mode => ?_, rfl, ?_⟩
  · cases mode <;> rfl
  · simp only [JoinCall.run, dateJoin, Context.joinSequence, Context.joinFeed, Context.assemble,
      Context.render_eq_renderLeaves]
    rfl

end Stencil
