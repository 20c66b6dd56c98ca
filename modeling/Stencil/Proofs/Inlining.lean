import Stencil.Proofs.Composition
import Stencil.Proofs.Depth

/-!
# Inlining templates

A place is an argument list with a hole at some depth. Whatever fills the hole is rendered between
what stands in front of it and what stands behind it, so a template may be replaced there by a
callable that does what rendering the template does. A callable that renders the template with the
context that it is given is the case that matters: templates can be wrapped and unwrapped. This is
seen in one case only: if the template has no leaf and a single one stands around it, there are two
leaves with the callable, and the sign of the end of an iteration is told as another failure.
-/

namespace Stencil

/-- Template arguments with one place left open. -/
inductive Place where
  /-- Among the arguments. -/
  | here (before after : List Value)
  /-- Inside a list among the arguments. -/
  | inList (before : List Value) (inner : Place) (after : List Value)
  /-- Inside a tuple among the arguments. -/
  | inTuple (before : List Value) (inner : Place) (after : List Value)

namespace Place

/-- The arguments with a value in the place. -/
def fill : Place → Value → List Value
  | here before after, v => before ++ v :: after
  | inList before inner after, v => before ++ .list (inner.fill v) :: after
  | inTuple before inner after, v => before ++ .tuple (inner.fill v) :: after

/-- What stands in front of the place, at all depths. -/
def front : Place → List Value
  | here before _ => before
  | inList before inner _ => before ++ inner.front
  | inTuple before inner _ => before ++ inner.front

/-- What stands behind the place, at all depths. -/
def back : Place → List Value
  | here _ after => after
  | inList _ inner after => inner.back ++ after
  | inTuple _ inner after => inner.back ++ after

/-- How many leaves stand around the place. -/
def leafCount (place : Place) : Nat :=
  (Template.leaves place.front).length + (Template.leaves place.back).length

variable (place : Place) (v : Value)

/-- The leaves of a value in a place stand between those in front and those behind. -/
theorem leaves_fill : Template.leaves (place.fill v) =
    Template.leaves place.front ++ (Template.leavesOf v ++ Template.leaves place.back) := by
  induction place with
  | here before after => simp [fill, front, back]
  | inList before inner after ih => simp [fill, front, back, ih]
  | inTuple before inner after ih => simp [fill, front, back, ih]

/-- Whoever knows the arguments knows what stands around the place, and in it. -/
theorem knows_fill {s : State} {vs : List Value} (hs : s.Knows (place.fill v ++ vs)) :
    s.Knows (v :: (place.front ++ (place.back ++ vs))) := by
  induction place generalizing vs with
  | here before after => exact hs.subset (by simp only [fill, front, back]; grind)
  | inList before inner after ih =>
    have hinner : s.Knows (.list (inner.fill v) :: (before ++ (after ++ vs))) :=
      hs.subset (by simp only [fill]; grind)
    exact (ih hinner.of_list).subset (by simp only [front, back]; grind)
  | inTuple before inner after ih =>
    have hinner : s.Knows (.tuple (inner.fill v) :: (before ++ (after ++ vs))) :=
      hs.subset (by simp only [fill]; grind)
    exact (ih hinner.of_tuple).subset (by simp only [front, back]; grind)

end Place

/-- A callable is a leaf. -/
theorem Template.leavesOf_of_isCallable {w : Value} (hw : w.isCallable = true) :
    leavesOf w = [w] := by
  cases w with
  | function | applied => rfl
  | _ => cases hw

namespace Context

variable (h : Host) (c : Context) (place : Place)

/-- Where nothing stands around a place, what fills it is rendered alone. -/
theorem render_fill_of_leafCount_eq_zero (hplace : place.leafCount = 0) (v : Value) :
    c.render h (place.fill v) = c.render h [v] := by
  obtain ⟨hfront, hback⟩ := Nat.add_eq_zero_iff.mp hplace
  rw [render_eq_renderLeaves, place.leaves_fill, List.length_eq_zero_iff.mp hfront,
    List.length_eq_zero_iff.mp hback, List.nil_append, render_eq_renderLeaves]
  rfl

/-- What fills a place is rendered between what stands around it, each among all leaves. -/
theorem render_fill (v : Value) :
    c.render h (place.fill v) = Action.among (Template.leaves (place.fill v)).length (do
      let front ← c.render h place.front
      let filled ← c.render h [v]
      let back ← c.render h place.back
      pure (front ++ (filled ++ back))) := by
  have hleaves : Template.leaves (place.fill v) =
      Template.leaves (place.front ++ ([v] ++ place.back)) := by
    rw [place.leaves_fill]
    simp
  have hle : (Template.leaves ([v] ++ place.back)).length ≤
      (Template.leaves (place.front ++ ([v] ++ place.back))).length := by
    rw [Template.leaves_append place.front, List.length_append]
    omega
  rw [render_eq_renderLeaves, hleaves, ← render_eq_renderLeaves, render_append, renderInTurn,
    render_append, renderInTurn]
  simp only [Action.among_bind, Action.among_among hle, Action.among_pure, bind_assoc, pure_bind]

/-- Among the leaves that stand around a place and one more, it does not count how many there are in
what fills the place. -/
theorem among_render_fill (v : Value) :
    (c.render h (place.fill v)).among (place.leafCount + 1) =
      Action.among (place.leafCount + 1) (do
        let front ← c.render h place.front
        let filled ← c.render h [v]
        let back ← c.render h place.back
        pure (front ++ (filled ++ back))) := by
  rcases Nat.eq_zero_or_pos place.leafCount with hplace | hplace
  · obtain ⟨hfront, hback⟩ := Nat.add_eq_zero_iff.mp hplace
    rw [Action.among_of_le_one (by omega), Action.among_of_le_one (by omega),
      c.render_fill_of_leafCount_eq_zero h place hplace]
    have hnothing : ∀ templates : List Value, (Template.leaves templates).length = 0 →
        c.render h templates = pure "" := by
      intro templates hlength
      rw [render_eq_renderLeaves, List.length_eq_zero_iff.mp hlength]
      rfl
    rw [hnothing _ hfront, hnothing _ hback]
    simp only [pure_bind, String.empty_append, String.append_empty, bind_pure]
  · rw [Action.among_of_one_lt (by omega), Action.among_of_one_lt (by omega), render_fill,
      Action.iterated_among]

/-- In a place, a callable is one leaf more than those that stand around. -/
theorem render_fill_of_isCallable {w : Value} (hw : w.isCallable = true) :
    c.render h (place.fill w) = Action.among (place.leafCount + 1) (do
      let front ← c.render h place.front
      let filled ← c.render h [w]
      let back ← c.render h place.back
      pure (front ++ (filled ++ back))) := by
  have hcount : (Template.leaves (place.fill w)).length = place.leafCount + 1 := by
    rw [place.leaves_fill, Template.leavesOf_of_isCallable hw, List.length_append,
      List.length_append, List.length_singleton, Place.leafCount]
    omega
  rw [render_fill, hcount]

/-- Being among the leaves around a place and one more changes nothing, unless a single leaf stands
around it and none is in it. -/
theorem among_render_fill_eq {t : Value}
    (ht : Template.leavesOf t ≠ [] ∨ place.leafCount ≠ 1) :
    (c.render h (place.fill t)).among (place.leafCount + 1) = c.render h (place.fill t) := by
  have hcount : (Template.leaves (place.fill t)).length =
      place.leafCount + (Template.leavesOf t).length := by
    rw [place.leaves_fill, List.length_append, List.length_append, Place.leafCount]
    omega
  rcases Nat.eq_zero_or_pos place.leafCount with hplace | hplace
  · exact Action.among_of_le_one (by omega) _
  · have hseveral : 1 < (Template.leaves (place.fill t)).length := by
      rcases ht with ht | ht
      · have hpos := List.length_pos_iff.mpr ht
        omega
      · omega
    rw [Action.among_of_one_lt (by omega), render_eq_renderLeaves, renderLeaves_eq_among,
      Action.among_of_one_lt hseveral, Action.iterated_iterated]

/-- A callable is rendered by one call. -/
theorem render_of_isCallable {w : Value} (hw : w.isCallable = true) :
    c.render h [w] = w.call h [.context c, c.data] >>= textOr (.notText w) := by
  rw [render_eq_renderLeaves, Template.leaves_cons, Template.leavesOf_of_isCallable hw]
  show (w.resolve h [.context c, c.data] >>= _) = _
  rw [Value.resolve, if_pos hw]
  refine bind_congr fun v => ?_
  cases v <;> rfl

/-- A callable whose call gives a text is rendered by what gives it. -/
theorem render_eq_of_call_eq {w : Value} {a : Action String} (hw : w.isCallable = true)
    (hcall : w.call h [.context c, c.data] = .str <$> a) : c.render h [w] = a := by
  rw [c.render_of_isCallable h hw, hcall, bind_map_left]
  exact bind_pure _

/-- A callable whose call ends like rendering a template is rendered with such an end. -/
theorem render_endsAlike_of_call {n : Nat} {w t : Value} {s : State} (hw : w.isCallable = true)
    (hcall : EndsAlike n ((w.call h [.context c, c.data]).run s)
      ((.str <$> c.render h [t] : Action Value).run s)) :
    EndsAlike n ((c.render h [w]).run s) ((c.render h [t]).run s) := by
  have htext : c.render h [t] =
      (.str <$> c.render h [t] : Action Value) >>= textOr (.notText w) := by
    rw [bind_map_left]
    exact (bind_pure _).symm
  rw [c.render_of_isCallable h hw, htext]
  refine hcall.bind fun x u v _ hv huv => ?_
  rw [map_eq_pure_bind, Action.run_bind_eq_ok_iff] at hv
  obtain ⟨text, v, -, hpure⟩ := hv
  obtain ⟨rfl, rfl⟩ := Action.run_pure_eq_ok_iff.mp hpure
  exact .ok text huv

/-- So it is among others, if the failures are of the same kind. -/
theorem render_among_endsAlike_of_call {n : Nat} {w t : Value} {s : State}
    (hw : w.isCallable = true)
    (hcall : EndsAlike n ((w.call h [.context c, c.data]).run s)
      ((.str <$> c.render h [t] : Action Value).run s))
    (hkind : ∀ e f u v, (w.call h [.context c, c.data]).run s = .error e u →
      (c.render h [t]).run s = .error f v → e.kind = f.kind) (count : Nat) :
    EndsAlike n (((c.render h [w]).among count).run s) (((c.render h [t]).among count).run s) := by
  refine (c.render_endsAlike_of_call h hw hcall).among ?_ count
  intro e f u v he hf
  rw [c.render_of_isCallable h hw, Action.run_bind_eq_error_iff] at he
  rcases he with he | ⟨x, u', hx, -⟩
  · exact hkind e f u v he hf
  · -- a call that gives something does not end like a rendering that fails
    rw [hx, Action.run_map_eq_error_iff.mpr hf] at hcall
    cases hcall

end Context

section

variable {h : Host} (hlawful : h.Lawful) (huniform : h.Uniform) {c : Context}
include hlawful huniform

/-- Rendering what is known leaves a later state, which knows what was known. -/
theorem Context.before_of_render {templates vs : List Value} {s t : State}
    (hs : s.Knows (.context c :: (templates ++ vs))) {text : String}
    (hrun : (c.render h templates).run s = .ok text t) :
    s.Before t ∧ t.Knows (.context c :: (templates ++ vs)) := by
  have hmentions : (c.render h templates).Mentions Renaming.onText s :=
    Context.render_mentions huniform (hs.subset (by grind))
  exact ⟨hmentions.before_of_ok (c.render_advances hlawful templates) hrun,
    (hmentions.knows_of_ok hs hrun).1⟩

/-- Where a callable is seen to do what rendering a template does, neither is told from the other in
any place, among the same number of leaves. -/
theorem Context.render_fill_endsAlike {w t : Value} (hw : w.isCallable = true) (place : Place)
    (hcall : ∀ s : State, s.Knows [.context c, w, t] →
      EndsAlike s.iterators.size ((w.call h [.context c, c.data]).run s)
        ((.str <$> c.render h [t] : Action Value).run s) ∧
      ∀ e f u v, (w.call h [.context c, c.data]).run s = .error e u →
        (c.render h [t]).run s = .error f v → e.kind = f.kind)
    {s : State} (hs : s.Knows (.context c :: w :: place.fill t)) :
    EndsAlike s.iterators.size ((c.render h (place.fill w)).run s)
      (((c.render h (place.fill t)).among (place.leafCount + 1)).run s) := by
  have hparts : s.Knows (.context c :: (place.front ++ (w :: t :: place.back))) := by
    have hfill : s.Knows (place.fill t ++ [.context c, w]) := hs.subset (by grind)
    exact (place.knows_fill t hfill).subset (by grind)
  rw [c.render_fill_of_isCallable h place hw, c.among_render_fill]
  simp only [Action.among_bind, Action.among_pure]
  refine .bind_left fun front u hu => ?_
  obtain ⟨hsu, hknows⟩ := c.before_of_render hlawful huniform hparts
    (Action.run_among_eq_ok_iff.mp hu)
  -- the two may give out different identities, which the rest does not know of
  refine EndsAlike.of_le (m := u.iterators.size) ?_ hsu.precedes.size
  obtain ⟨halike, hkind⟩ := hcall u (hknows.subset (by grind))
  refine (c.render_among_endsAlike_of_call h hw halike hkind _).bind
    fun filled v v' hv hv' hvv' => ?_
  have hone : ∀ x ∈ [w, t], u.Knows (.context c :: ([x] ++ [])) := fun x hx =>
    hknows.subset (by grind)
  have hv := (c.before_of_render hlawful huniform (hone w (by simp))
    (Action.run_among_eq_ok_iff.mp hv)).1
  have hv' := (c.before_of_render hlawful huniform (hone t (by simp))
    (Action.run_among_eq_ok_iff.mp hv')).1
  have hback : (c.render h place.back).Mentions Renaming.onText u :=
    Context.render_mentions huniform (hknows.subset (by grind))
  have hrest := (hback.among (place.leafCount + 1)).endsAlike
    ((c.render_advances hlawful place.back).among _) hknows hv hv' hvv'
  exact hrest.bind fun back _ _ _ _ halike => .ok (front ++ (filled ++ back)) halike

end

/-- A callable that renders a template with the context that it is given first. -/
def rendererOf (id : Nat) (name : String) (signature : Option (List Parameter)) (t : Value) :
    Value :=
  .function ⟨id, name, signature, .apply .render [.one (.argument 0 0), .one (.argument 0 1)],
    [[t]]⟩

namespace Context

variable {c : Context} {id : Nat} {name : String} {signature : Option (List Parameter)} {t : Value}

variable (ha : ∀ n, (rendererOf id name signature t).accepts (.ofDepth n) 2 = true)
include ha

/-- A call of the callable runs it. -/
theorem call_rendererOf (n : Nat) :
    (rendererOf id name signature t).call (.ofDepth n) [.context c, c.data] =
      (Host.ofDepth n).run ⟨id, name, signature,
        .apply .render [.one (.argument 0 0), .one (.argument 0 1)], [[t]]⟩
        [.context c, c.data] := by
  have hbinds : Closure.bindError? (.ofDepth n) ⟨id, name, signature,
      .apply .render [.one (.argument 0 0), .one (.argument 0 1)], [[t]]⟩
      [Value.context c, c.data].length = none := Option.isNone_iff_eq_none.mp (ha n)
  rw [rendererOf, Value.call, Closure.call, hbinds]

/-- Without room for a call, the callable gives up. -/
theorem render_rendererOf_zero :
    c.render (.ofDepth 0) [rendererOf id name signature t] = throw .tooDeep :=
  c.render_eq_of_call_eq _ rfl (call_rendererOf ha 0)

/-- With room for it, the callable renders the template one call deeper. -/
theorem render_rendererOf_succ (n : Nat) :
    c.render (.ofDepth (n + 1)) [rendererOf id name signature t] = c.render (.ofDepth n) [t] :=
  c.render_eq_of_call_eq _ rfl (call_rendererOf ha (n + 1))

/-- Wrapped in any place, a template comes to the same as unwrapped among one more leaf than stand
around it. -/
theorem finishes_rendererOf_iff (place : Place) (s : State)
    (r : EStateM.Result Failure State String) :
    Finishes (fun h => c.render h (place.fill (rendererOf id name signature t))) s r ↔
      Finishes (fun h => (c.render h (place.fill t)).among (place.leafCount + 1)) s r := by
  have hfill : ∀ {n m : Nat} {v v' : Value}, n ≤ m →
      (c.render (.ofDepth n) [v]).Approximates (c.render (.ofDepth m) [v']) →
      ((c.render (.ofDepth n) (place.fill v)).among (place.leafCount + 1)).Approximates
        ((c.render (.ofDepth m) (place.fill v')).among (place.leafCount + 1)) := by
    intro n m v v' hnm hv
    rw [c.among_render_fill, c.among_render_fill]
    refine Action.Approximates.among (place.leafCount + 1) ?_
    exact (c.render_approximates _ hnm).bind fun front => hv.bind fun filled =>
      (c.render_approximates _ hnm).bind fun back => .refl _
  have hcallable : ∀ h, c.render h (place.fill (rendererOf id name signature t)) =
      (c.render h (place.fill (rendererOf id name signature t))).among (place.leafCount + 1) := by
    intro h
    refine (c.among_render_fill_eq h place (.inl ?_)).symm
    rw [Template.leavesOf_of_isCallable rfl]
    exact List.cons_ne_nil _ _
  rw [funext hcallable]
  constructor
  · refine Finishes.of_approximates fun n => ⟨n, hfill (Nat.le_refl n) ?_⟩
    cases n with
    | zero =>
      rw [render_rendererOf_zero ha]
      exact .throw_tooDeep _
    | succ n =>
      rw [render_rendererOf_succ ha]
      exact c.render_approximates [t] (Nat.le_succ n)
  · refine Finishes.of_approximates fun n => ⟨n + 1, hfill (Nat.le_succ n) ?_⟩
    rw [render_rendererOf_succ ha]
    exact .refl _

end Context

/-- A callable that gives a text and leaves an identity behind. -/
def wastefulText : Value :=
  .function ⟨0, "text", none, .apply .last [.one (.function "unused" none .null),
    .one (.str "x")], []⟩

/-- A place in a list, between two texts. -/
def listPlace : Place := .inList [.str "a"] (.here [] [.null]) [.str "b"]

/-- A callable that renders null with the context that it is given. -/
def emptyRenderer : Value := rendererOf 3 "empty" none .null

end Stencil
