import Stencil.Proofs.Observation
import Stencil.Proofs.Outcome

/-!
# Rendering in parts

Rendering arguments is rendering some of them and then the others: the first part that fails decides
and the texts follow one another, however the leaves are distributed. What the parts do not tell is
whether all leaves together are several, which matters for a failure that is the sign of the end of
an iteration. Rendering against data makes a root context each time, so two parts are rendered in
two roots; that they are not the same one is not seen.
-/

namespace Stencil

/-- Renders templates and then others, and puts the texts together. -/
def Context.renderInTurn (h : Host) (c : Context) (ts us : List Value) : Action String := do
  let front ← c.render h ts
  let back ← c.render h us
  pure (front ++ back)

/-- Renders templates and then others against data, each in a root context of their own. -/
def applyDataInTurn (h : Host) (data t : Value) (ts : List Value) (u : Value) (us : List Value) :
    Action String := do
  let front ← applyData h data t ts
  let back ← applyData h data u us
  pure (front ++ back)

namespace Context

variable {h : Host} {c : Context}

/-- Arguments are rendered one part after the other, each as a part of all their leaves. -/
theorem render_append (ts us : List Value) :
    c.render h (ts ++ us) =
      (c.renderInTurn h ts us).among (Template.leaves (ts ++ us)).length := by
  have hcount : (Template.leaves (ts ++ us)).length =
      (Template.leaves ts).length + (Template.leaves us).length := by
    rw [Template.leaves_append, List.length_append]
  have hts : (Template.leaves ts).length ≤ (Template.leaves (ts ++ us)).length := by omega
  have hus : (Template.leaves us).length ≤ (Template.leaves (ts ++ us)).length := by omega
  simp only [renderInTurn, render_eq_renderLeaves, renderLeaves_eq_among, Action.among_bind,
    Action.among_among hts, Action.among_among hus]
  simp only [← Action.among_bind, Template.leaves_append, renderEach_append]

end Context

/-- What is known when an identity was given out: what was known before, and a root context of that
identity over known data. -/
theorem State.Knows.ofData {s : State} {data : Value} {vs : List Value}
    (hs : s.Knows (data :: vs)) :
    ({ s with nextId := s.nextId + 1 } : State).Knows
      (.context (.ofData s.nextId data) :: data :: vs) := by
  refine hs.succ.cons fun ρ hρ => ?_
  have hdata := hs.succ.values ρ hρ data List.mem_cons_self
  have hid : ρ.id s.nextId = s.nextId := hρ.id _ (Nat.lt_succ_self _)
  rw [Value.rename, Context.ofData, Context.new_rename, hid, hdata]
  rfl

section

variable {h : Host} (hlawful : h.Lawful) (huniform : h.Uniform)
include hlawful huniform

/-- Whether the rest is rendered in the root context made first or in another one made later is not
seen, also among other leaves. -/
theorem render_endsAlike_applyData {s t : State} {data template : Value} {templates : List Value}
    (hs : s.Knows (data :: template :: templates))
    (ht : ({ s with nextId := s.nextId + 1 } : State).Before t) (count : Nat) :
    EndsAlike s.iterators.size
      ((((Context.ofData s.nextId data).render h (template :: templates)).among count).run t)
      (((applyData h data template templates).among count).run t) := by
  have hroot := hs.ofData
  have hrender : ((Context.ofData s.nextId data).render h (template :: templates)).Mentions
      Renaming.onText { s with nextId := s.nextId + 1 } :=
    Context.render_mentions huniform (hroot.subset (by grind))
  have hfirst := (hrender.among count).endsAlike_forget
    ((Context.render_advances hlawful _ _).among count) hroot ht
  have hsecond := ((applyData_mentions huniform hs).among count).endsAlike_forget
    ((applyData_advances hlawful _ _ _).among count) hs (s.before_succ.trans ht)
  -- without what was given out since, the later root is given the identity of the first
  have hsame : ((applyData h data template templates).among count).run (s.forget t) =
      (((Context.ofData s.nextId data).render h (template :: templates)).among count).run
        (State.forget { s with nextId := s.nextId + 1 } t) :=
    Action.run_among_congr count rfl
  rw [hsame] at hsecond
  exact hfirst.symm.trans hsecond

/-- Rendering against data in two parts looks like rendering all at once, when each is rendered as
a part of all leaves. -/
theorem applyData_append_endsAlike {s : State} {data t u : Value} {ts us : List Value}
    (hs : s.Knows (data :: t :: (ts ++ u :: us))) :
    EndsAlike s.iterators.size ((applyData h data t (ts ++ u :: us)).run s)
      (((applyDataInTurn h data t ts u us).among
        (Template.leaves (t :: (ts ++ u :: us))).length).run s) := by
  generalize hcount : (Template.leaves (t :: (ts ++ u :: us))).length = count
  have hsplit : applyData h data t (ts ++ u :: us) = (do
      let id ← Action.freshId
      let front ← ((Context.ofData id data).render h (t :: ts)).among count
      let back ← ((Context.ofData id data).render h (u :: us)).among count
      pure (front ++ back)) := by
    rw [applyData]
    refine bind_congr fun id => ?_
    have happend := Context.render_append (h := h) (c := .ofData id data) (t :: ts) (u :: us)
    rw [List.cons_append, hcount, Context.renderInTurn] at happend
    simpa only [Action.among_bind, Action.among_pure] using happend
  have htwice : (applyDataInTurn h data t ts u us).among count = (do
      let id ← Action.freshId
      let front ← ((Context.ofData id data).render h (t :: ts)).among count
      let back ← (applyData h data u us).among count
      pure (front ++ back)) := by
    simp only [applyDataInTurn, Action.among_bind, Action.among_pure]
    rw [applyData, Action.among_bind, Action.among_freshId, bind_assoc]
  rw [hsplit, htwice]
  refine .bind_left fun id v hid => ?_
  obtain ⟨rfl, rfl⟩ := Action.run_freshId_eq_ok_iff.mp hid
  refine .bind_left fun front v hv => ?_
  have hfirst : ((Context.ofData s.nextId data).render h (t :: ts)).Mentions
      Renaming.onText { s with nextId := s.nextId + 1 } :=
    Context.render_mentions huniform (hs.ofData.subset (by grind))
  have hbefore := hfirst.before_of_ok (Context.render_advances hlawful _ _)
    (Action.run_among_eq_ok_iff.mp hv)
  have hrest : s.Knows (data :: u :: us) := hs.subset (by grind)
  have hback := render_endsAlike_applyData hlawful huniform hrest hbefore count
  exact hback.bind fun back u v _ _ huv => .ok (front ++ back) huv

end

/-- A leaf that logs a mark and renders the data. -/
def loggingLeaf : Value :=
  .function ⟨0, "leaf", none, .apply .last [.one (.apply .log [.one (.str "leaf")]),
    .one (.argument 1 0)], []⟩

end Stencil
