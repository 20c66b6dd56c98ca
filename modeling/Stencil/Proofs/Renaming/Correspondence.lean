import Stencil.Proofs.Advance
import Stencil.Proofs.Renaming.Operation

/-!
# Corresponding runs

Two states correspond when one is the other with identities renamed and the renaming agrees with
what either is going to give out next (`Correspondence.Matches`). An action follows another when
from corresponding states both come to corresponding ends, with renamed results and failures
(`Action.Follows`). Steps in a row follow each other when each step does.
-/

namespace Stencil

/-- A suspended expression with new identities in its scope. -/
def Suspended.rename (ρ : Renaming) (e : Suspended) : Suspended :=
  { e with scope := e.scope.map (List.map (Value.rename ρ)) }

/-- What is known of an iterator, with new identities. -/
def Iterator.rename (ρ : Renaming) : Iterator → Iterator
  | .idle rest => .idle (rest.map (Suspended.rename ρ))
  | .running => .running

/-- The value of an earlier step with new identities. -/
def renameBinding (ρ : Renaming) (b : String × Value) : String × Value :=
  (b.1, b.2.rename ρ)

/-- How the states of one run are renamed to those of another. Identities and places are given out
in order on both sides, so the renaming is of use only as far as it keeps that order: it is relied
upon below the limits. -/
structure Correspondence extends Renaming where
  /-- The first identity that is not accounted for. -/
  idLimit : Nat
  /-- The first place that is not accounted for. -/
  placeLimit : Nat
  /-- Whether the first run may give up, where its calls nest too deeply, and the second go on. -/
  mayGiveUp : Prop

instance : Coe Correspondence Renaming := ⟨Correspondence.toRenaming⟩

namespace Correspondence

/-- One state is the other one renamed, and what both give out next is renamed in step. -/
structure Matches (κ : Correspondence) (s t : State) : Prop where
  /-- The logs are the same. -/
  log : t.log = s.log
  /-- The values of earlier steps are renamed. -/
  bindings : t.bindings = s.bindings.map (renameBinding κ)
  /-- The identities to come are renamed in step, below the limit. -/
  nextId : ∀ j, s.nextId + j < κ.idLimit → κ.id (s.nextId + j) = t.nextId + j
  /-- The places to come are renamed in step, below the limit. -/
  nextPlace : ∀ j, s.iterators.size + j < κ.placeLimit →
    κ.place (s.iterators.size + j) = t.iterators.size + j
  /-- An iterator exists on one side when it does on the other. -/
  inside : ∀ i, κ.place i < t.iterators.size ↔ i < s.iterators.size
  /-- The iterators are renamed. -/
  iterator : ∀ i, t.iterator (κ.place i) = (s.iterator i).rename κ

/-- Two runs come to the same end, renamed, unless the first gave up. -/
inductive Agrees (κ : Correspondence) {α β : Type} (g : α → β) :
    EStateM.Result Failure State α → EStateM.Result Failure State β → Prop
  /-- Both have a result. -/
  | ok {x : α} {s t : State} (h : κ.Matches s t) : κ.Agrees g (.ok x s) (.ok (g x) t)
  /-- Both fail alike. -/
  | error {e : Failure} {s t : State} (h : κ.Matches s t) :
      κ.Agrees g (.error e s) (.error (e.rename κ) t)
  /-- The first gave up. -/
  | givenUp {s : State} {r : EStateM.Result Failure State β} (h : κ.mayGiveUp) :
      κ.Agrees g (.error .tooDeep s) r

/-- A run that agrees with one that gives a result gives the renamed result. -/
theorem Agrees.of_ok {κ : Correspondence} {α β : Type} {g : α → β} {x : α} {s : State}
    {r : EStateM.Result Failure State β} (h : κ.Agrees g (.ok x s) r) :
    ∃ t, r = .ok (g x) t ∧ κ.Matches s t := by
  cases h with
  | ok hst => exact ⟨_, rfl, hst⟩

/-- A run that agrees with one that fails, but does not give up, fails with the renamed failure. -/
theorem Agrees.of_error {κ : Correspondence} {α β : Type} {g : α → β} {e : Failure} {s : State}
    {r : EStateM.Result Failure State β} (h : κ.Agrees g (.error e s) r) :
    (∃ t, r = .error (e.rename κ) t ∧ κ.Matches s t) ∨ κ.mayGiveUp ∧ e = .tooDeep := by
  cases h with
  | error hst => exact .inl ⟨_, rfl, hst⟩
  | givenUp hup => exact .inr ⟨hup, rfl⟩

end Correspondence

namespace State

/-- Of two states, the second has given out no less than the first, with the values of earlier steps
as they were. -/
structure Precedes (s t : State) : Prop where
  /-- No identity is given back. -/
  nextId : s.nextId ≤ t.nextId
  /-- No place is given back. -/
  size : s.iterators.size ≤ t.iterators.size
  /-- The values of earlier steps stay. -/
  bindings : t.bindings = s.bindings

/-- What a state has given out is below the limits of a correspondence. -/
structure Within (κ : Correspondence) (s : State) : Prop where
  /-- The identities are. -/
  nextId : s.nextId ≤ κ.idLimit
  /-- The places are. -/
  size : s.iterators.size ≤ κ.placeLimit

/-- A state has given out what it has. -/
theorem Precedes.refl (s : State) : s.Precedes s := ⟨Nat.le_refl _, Nat.le_refl _, rfl⟩

/-- States precede each other along a run. -/
theorem Precedes.trans {s t u : State} (hst : s.Precedes t) (htu : t.Precedes u) : s.Precedes u :=
  ⟨Nat.le_trans hst.nextId htu.nextId, Nat.le_trans hst.size htu.size,
    htu.bindings.trans hst.bindings⟩

/-- What a state has given out, a later one has as well. -/
theorem Precedes.within {κ : Correspondence} {s t : State} (hst : s.Precedes t)
    (ht : t.Within κ) : s.Within κ :=
  ⟨Nat.le_trans hst.nextId ht.nextId, Nat.le_trans hst.size ht.size⟩

@[simp] theorem size_setIterator (s : State) (id : Nat) (it : Iterator) :
    (s.setIterator id it).iterators.size = s.iterators.size := by
  simp [setIterator]

end State

namespace Correspondence.Matches

variable {κ : Correspondence} {s t : State}

/-- The same change to corresponding iterators. -/
theorem setIterator (hst : κ.Matches s t) (id : Nat) (it : Iterator) :
    κ.Matches (s.setIterator id it) (t.setIterator (κ.place id) (it.rename κ)) where
  log := hst.log
  bindings := hst.bindings
  nextId := hst.nextId
  nextPlace := by simpa using hst.nextPlace
  inside := by simpa using hst.inside
  iterator := by
    intro i
    by_cases he : id = i
    · subst i
      by_cases hid : id < s.iterators.size
      · rw [State.iterator_setIterator_self s hid,
          State.iterator_setIterator_self t ((hst.inside id).mpr hid)]
      · -- an iterator that does not exist is not changed on either side
        have hid' := mt (hst.inside id).mp hid
        simp only [State.iterator, State.setIterator, Array.setIfInBounds, hid, hid', dite_false]
        simpa [State.iterator, hid, hid'] using hst.iterator id
    · have hne : κ.place id ≠ κ.place i := fun h => he (κ.place_injective h)
      rw [State.iterator_setIterator_ne s he, State.iterator_setIterator_ne t hne, hst.iterator]

/-- The values of earlier steps correspond. -/
theorem valueOf? (hst : κ.Matches s t) (name : String) :
    t.valueOf? name = (s.valueOf? name).map (Value.rename κ) := by
  simp only [State.valueOf?, hst.bindings, List.find?_map, Function.comp_def, renameBinding,
    Option.map_map]

/-- As many elements remain of corresponding iterators. -/
theorem remaining (hst : κ.Matches s t) (id : Nat) :
    t.remaining (κ.place id) = s.remaining id := by
  simp only [State.remaining, hst.iterator]
  cases s.iterator id <;> simp [Iterator.rename]

end Correspondence.Matches

/-- An action `b` follows `a` when, from corresponding states, it comes to the corresponding end
wherever what `a` gave out on the way was accounted for. -/
structure Action.Follows (κ : Correspondence) {α β : Type} (g : α → β) (a : Action α)
    (b : Action β) : Prop where
  /-- What was given out is not given back. -/
  precedes : ∀ s : State, s.Precedes (a.stateAfter s)
  /-- The ends correspond. -/
  agrees : ∀ s t : State, κ.Matches s t → (a.stateAfter s).Within κ →
    κ.Agrees g (a.run s) (b.run t)

namespace Action

section

variable {κ : Correspondence} {α β γ δ : Type} {g : α → β} {p : γ → δ}

/-- An action that goes on after a result leaves the state of what goes on. -/
theorem stateAfter_bind_of_ok {a : Action α} {f : α → Action β} {s t : State} {x : α}
    (h : a.run s = .ok x t) : (a >>= f).stateAfter s = (f x).stateAfter t := by
  simp only [stateAfter, EStateM.run_bind, h]

/-- One that fails at first leaves the state of this failure. -/
theorem stateAfter_bind_of_error {a : Action α} {f : α → Action β} {s t : State} {e : Failure}
    (h : a.run s = .error e t) : (a >>= f).stateAfter s = t := by
  simp only [stateAfter, EStateM.run_bind, h]

/-- A renamed result follows a result. -/
theorem Follows.pure (g : α → β) (x : α) :
    (Pure.pure x : Action α).Follows κ g (Pure.pure (g x)) where
  precedes s := .refl s
  agrees _ _ h _ := .ok h

/-- A renamed failure follows a failure. -/
theorem Follows.throw (g : α → β) (e : Failure) :
    (MonadExcept.throw e : Action α).Follows κ g (MonadExcept.throw (e.rename κ)) where
  precedes s := .refl s
  agrees _ _ h _ := .error h

/-- A computation without effects is followed by one that comes to the same, renamed. -/
theorem Follows.ofExcept {r : Except Failure α} {r' : Except Failure β}
    (h : r' = renameOutcome κ g r) :
    (Action.ofExcept r).Follows κ g (Action.ofExcept r') := by
  subst h
  cases r with
  | ok x => exact .pure g x
  | error e => exact .throw g e

/-- What is done upon a look at the state. -/
theorem Follows.get_bind {f : State → Action α} {k : State → Action β}
    (hf : ∀ s t, κ.Matches s t → (f s).Follows κ g (k t))
    (hprecedes : ∀ s : State, s.Precedes ((f s).stateAfter s)) :
    (MonadState.get >>= f : Action α).Follows κ g (MonadState.get >>= k) where
  precedes := hprecedes
  agrees s t hst := (hf s t hst).agrees s t hst

/-- One action after the other: the whole is followed if the first is, and what goes on from every
result. -/
theorem Follows.bind {a : Action α} {b : Action β} {f : α → Action γ} {k : β → Action δ}
    (ha : a.Follows κ g b) (hf : ∀ x, (f x).Follows κ p (k (g x))) :
    (a >>= f).Follows κ p (b >>= k) where
  precedes s := by
    have hfirst := ha.precedes s
    cases h : a.run s with
    | ok x t =>
      rw [stateAfter_of_ok h] at hfirst
      rw [stateAfter_bind_of_ok h]
      exact hfirst.trans ((hf x).precedes t)
    | error e t =>
      rw [stateAfter_of_error h] at hfirst
      rw [stateAfter_bind_of_error h]
      exact hfirst
  agrees s t hst hwithin := by
    have hfirst := ha.agrees s t hst
    cases h : a.run s with
    | ok x u =>
      rw [stateAfter_bind_of_ok h] at hwithin
      rw [h, stateAfter_of_ok h] at hfirst
      -- the first step gave out no more than both together
      specialize hfirst (((hf x).precedes u).within hwithin)
      obtain ⟨v, hv, huv⟩ := hfirst.of_ok
      rw [EStateM.run_bind, EStateM.run_bind, h, hv]
      exact (hf x).agrees u v huv hwithin
    | error e u =>
      rw [stateAfter_bind_of_error h] at hwithin
      rw [h, stateAfter_of_error h] at hfirst
      rw [EStateM.run_bind, EStateM.run_bind, h]
      obtain ⟨v, hv, huv⟩ | ⟨hup, rfl⟩ := (hfirst hwithin).of_error
      · rw [hv]
        exact .error huv
      · exact .givenUp hup

/-- In an iteration an action follows another one as it does alone. -/
theorem Follows.iterated {a : Action α} {b : Action β} (ha : a.Follows κ g b) :
    a.iterated.Follows κ g b.iterated where
  precedes s := by
    rw [stateAfter_iterated]
    exact ha.precedes s
  agrees s t hst hwithin := by
    rw [stateAfter_iterated] at hwithin
    have hagrees := ha.agrees s t hst hwithin
    cases h : a.run s with
    | ok x u =>
      rw [h] at hagrees
      obtain ⟨v, hv, huv⟩ := hagrees.of_ok
      rw [run_iterated_eq_ok_iff.mpr h, run_iterated_eq_ok_iff.mpr hv]
      exact .ok huv
    | error e u =>
      rw [h] at hagrees
      rw [run_iterated_eq_error_iff.mpr ⟨e, h, rfl⟩]
      obtain ⟨v, hv, huv⟩ | ⟨hup, rfl⟩ := hagrees.of_error
      · rw [run_iterated_eq_error_iff.mpr ⟨_, hv, rfl⟩, Failure.iterated_rename]
        exact .error huv
      · -- giving up is no sign of an end
        exact .givenUp hup

/-- Among others an action follows another one as it does alone. -/
theorem Follows.among {a : Action α} {b : Action β} (ha : a.Follows κ g b) (count : Nat) :
    (a.among count).Follows κ g (b.among count) := by
  rcases Nat.lt_or_ge 1 count with hcount | hcount
  · rw [among_of_one_lt hcount, among_of_one_lt hcount]
    exact ha.iterated
  · rwa [among_of_le_one hcount, among_of_le_one hcount]

/-- A function of the result may be renamed with it. -/
theorem Follows.map {a : Action α} {b : Action β} {f : α → γ} {k : β → δ}
    (ha : a.Follows κ g b) (hf : ∀ x, k (g x) = p (f x)) :
    (f <$> a).Follows κ p (k <$> b) := by
  rw [map_eq_pure_bind, map_eq_pure_bind]
  exact ha.bind fun x => hf x ▸ .pure p (f x)

/-- Actions for the elements of a list, one after the other, are followed one by one. -/
theorem Follows.mapM {f : α → Action γ} {k : β → Action δ}
    (hf : ∀ x, (f x).Follows κ p (k (g x))) (xs : List α) :
    (xs.mapM f).Follows κ (List.map p) ((xs.map g).mapM k) := by
  induction xs with
  | nil => exact .pure (List.map p) []
  | cons x xs ih =>
    rw [List.map_cons, List.mapM_cons, List.mapM_cons]
    exact (hf x).bind fun y => ih.bind fun ys => .pure (List.map p) (y :: ys)

/-- So are actions that each start with the result of the one before. -/
theorem Follows.foldlM {f : γ → α → Action γ} {k : δ → β → Action δ}
    (hf : ∀ y x, (f y x).Follows κ p (k (p y) (g x))) (y : γ) (xs : List α) :
    (xs.foldlM f y).Follows κ p ((xs.map g).foldlM k (p y)) := by
  induction xs generalizing y with
  | nil => exact .pure p y
  | cons x xs ih =>
    rw [List.map_cons, List.foldlM_cons, List.foldlM_cons]
    exact (hf y x).bind ih

end

variable {κ : Correspondence}

/-- Both sides write the same to the log. -/
theorem Follows.writeLog (entry : String) :
    (Action.writeLog entry).Follows κ id (Action.writeLog entry) where
  precedes _ := ⟨Nat.le_refl _, Nat.le_refl _, rfl⟩
  agrees _ _ hst _ := .ok { hst with log := congrArg (Array.push · entry) hst.log }

/-- Both sides give out an identity, and these correspond. -/
theorem Follows.freshId : Action.freshId.Follows κ κ.id Action.freshId where
  precedes s := ⟨Nat.le_succ _, Nat.le_refl _, rfl⟩
  agrees s t hst hwithin := by
    have hid : κ.id s.nextId = t.nextId := hst.nextId 0 hwithin.nextId
    show κ.Agrees κ.id (.ok s.nextId { s with nextId := s.nextId + 1 })
      (.ok t.nextId { t with nextId := t.nextId + 1 })
    rw [← hid]
    refine .ok { hst with nextId := fun j hj => ?_ }
    have hnext := hst.nextId (j + 1) (by simpa only [Nat.add_assoc, Nat.add_comm 1 j] using hj)
    rw [hid]
    simpa only [Nat.add_assoc, Nat.add_comm 1 j] using hnext

/-- Both sides give out a place, and these correspond. -/
theorem Follows.newIterator (elements : List Suspended) :
    (Action.newIterator elements).Follows κ (Value.rename κ)
      (Action.newIterator (elements.map (Suspended.rename κ))) where
  precedes s := by
    refine ⟨Nat.le_refl _, ?_, rfl⟩
    simp [stateAfter, EStateM.run, Action.newIterator]
  agrees s t hst hwithin := by
    have hsize : s.iterators.size < κ.placeLimit := by
      have hle := hwithin.size
      simp only [stateAfter, EStateM.run, Action.newIterator, Array.size_push] at hle
      omega
    have hplace : κ.place s.iterators.size = t.iterators.size := hst.nextPlace 0 hsize
    show κ.Agrees (Value.rename κ)
      (.ok (.iterator s.iterators.size) { s with iterators := s.iterators.push (.idle elements) })
      (.ok (.iterator t.iterators.size)
        { t with iterators := t.iterators.push (.idle (elements.map (Suspended.rename κ))) })
    rw [← hplace]
    refine .ok { hst with
      nextPlace := fun j hj => ?nextPlace
      inside := fun i => ?inside
      iterator := fun i => ?iterator }
    case nextPlace =>
      simp only [Array.size_push] at hj ⊢
      have hnext := hst.nextPlace (j + 1) (by omega)
      rw [show s.iterators.size + 1 + j = s.iterators.size + (j + 1) by omega]
      omega
    case inside =>
      have hi := hst.inside i
      have hlast : κ.place i = κ.place s.iterators.size ↔ i = s.iterators.size :=
        κ.place_injective.eq_iff
      simp only [Array.size_push]
      omega
    case iterator =>
      have hi := hst.iterator i
      simp only [State.iterator, Array.getElem?_push] at hi ⊢
      by_cases he : i = s.iterators.size
      · simp [he, hplace, Iterator.rename]
      · have hne : κ.place i ≠ t.iterators.size := fun h =>
          he (κ.place_injective (h.trans hplace.symm))
        simpa [he, hne] using hi

end Action

/-- Callables and suspended elements mean the same to both hosts, renamed. -/
structure Host.Follows (κ : Correspondence) (h h' : Host) : Prop where
  /-- Functions do. -/
  run : ∀ f arguments, (h.run f arguments).Follows κ (Value.rename κ)
    (h'.run (f.rename κ) (arguments.map (Value.rename κ)))
  /-- Elements do. -/
  force : ∀ e, (h.force e).Follows κ (Value.rename κ) (h'.force (e.rename κ))
  /-- Functions without readable parameters refuse the same numbers of arguments. -/
  refuses? : ∀ f k, h'.refuses? (f.rename κ) k = h.refuses? f k

/-- Corresponding iterators give corresponding elements. -/
theorem Action.Follows.draw {κ : Correspondence} {h h' : Host} (hh : h.Follows κ h') (id : Nat) :
    (Action.draw h id).Follows κ (Option.map (Value.rename κ))
      (Action.draw h' (κ.place id)) where
  precedes s := by
    cases hs : s.iterator id with
    | running =>
      simp only [stateAfter, EStateM.run, Action.draw, hs]
      exact .refl s
    | idle rest =>
      cases rest with
      | nil =>
        simp only [stateAfter, EStateM.run, Action.draw, hs]
        exact .refl s
      | cons next rest =>
        have hforce := (hh.force next).iterated.precedes (s.setIterator id .running)
        have hback : ∀ (u : State) (it : Iterator), (s.setIterator id .running).Precedes u →
            s.Precedes (u.setIterator id it) :=
          fun u it hu => ⟨hu.nextId, by simpa using hu.size, hu.bindings⟩
        simp only [stateAfter, EStateM.run] at hforce ⊢
        simp only [Action.draw, hs]
        cases hf : (h.force next).iterated (s.setIterator id .running) with
        | ok v u =>
          rw [hf] at hforce
          exact hback _ _ hforce
        | error e u =>
          rw [hf] at hforce
          exact hback _ _ hforce
  agrees s t hst hwithin := by
    have ht := hst.iterator id
    cases hs : s.iterator id with
    | running =>
      rw [hs] at ht
      simp only [EStateM.run, Action.draw, hs, ht, Iterator.rename]
      exact .error hst
    | idle rest =>
      cases rest with
      | nil =>
        rw [hs] at ht
        simp only [EStateM.run, Action.draw, hs, ht, Iterator.rename, List.map_nil]
        exact .ok hst
      | cons next rest =>
        rw [hs] at ht
        have hforce := (hh.force next).iterated.agrees _ _ (hst.setIterator id .running)
        simp only [stateAfter, EStateM.run, Action.draw, hs, ht, Iterator.rename,
          List.map_cons] at hforce hwithin ⊢
        cases hf : (h.force next).iterated (s.setIterator id .running) with
        | ok v u =>
          simp only [hf] at hforce hwithin ⊢
          obtain ⟨v', hv', huv⟩ := (hforce ⟨hwithin.nextId, by simpa using hwithin.size⟩).of_ok
          rw [hv']
          exact .ok (huv.setIterator id (.idle rest))
        | error e u =>
          simp only [hf] at hforce hwithin ⊢
          obtain ⟨v', hv', huv⟩ | ⟨hup, rfl⟩ :=
            (hforce ⟨hwithin.nextId, by simpa using hwithin.size⟩).of_error
          · rw [hv']
            exact .error (huv.setIterator id (.idle []))
          · exact .givenUp hup

end Stencil
