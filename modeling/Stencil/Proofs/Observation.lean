import Stencil.Proofs.Renaming.Run
import Stencil.Script.Session

/-!
# What can be observed of a run

Identities are numbers that a run gives out; nothing but equality looks at them. What a state knows
are the values all of whose identities it has given out (`State.Knows`), and runs of actions that
mention known values only come to states that know all they hold. Such an action is not affected by
identities that were given out behind its back: what is seen of its end, and of the iterators that
exist already, does not depend on them (`Action.Mentions.endsAlike`).
-/

namespace Stencil

/-- Keeps the identities and places that a state has given out. -/
structure Renaming.Keeps (ρ : Renaming) (s : State) : Prop where
  /-- Identities are kept. -/
  id : ∀ i < s.nextId, ρ.id i = i
  /-- Places are kept. -/
  place : ∀ i < s.iterators.size, ρ.place i = i

/-- The state has given out all identities in the values, and those in what it holds itself: no
renaming that keeps what was given out can change them. -/
structure State.Knows (s : State) (vs : List Value) : Prop where
  /-- The values are known. -/
  values : ∀ ρ : Renaming, ρ.Keeps s → ∀ v ∈ vs, v.rename ρ = v
  /-- The values of earlier steps are known. -/
  bindings : ∀ ρ : Renaming, ρ.Keeps s → ∀ b ∈ s.bindings, b.2.rename ρ = b.2
  /-- What the iterators hold is known. -/
  iterator : ∀ ρ : Renaming, ρ.Keeps s → ∀ i, (s.iterator i).rename ρ = s.iterator i

/-- All identities in the values that an action mentions were given out by the state: the action
follows itself under every renaming that keeps them. Results are renamed by `g`. -/
def Action.Mentions {α : Type} (g : Renaming → α → α) (a : Action α) (s : State) : Prop :=
  ∀ κ : Correspondence, κ.toRenaming.Keeps s → a.Follows κ (g κ) a

/-- The renaming between runs that both go on, and account for what the given state has given
out. -/
def Renaming.upTo (ρ : Renaming) (t : State) : Correspondence where
  toRenaming := ρ
  idLimit := t.nextId
  placeLimit := t.iterators.size
  mayGiveUp := False

/-- Texts hold no identities. -/
def Renaming.onText (_ : Renaming) (text : String) : String := text

/-- What comes before has given out no more, and only advanced since. -/
structure State.Before (s t : State) : Prop where
  /-- Nothing that was given out is given back. -/
  precedes : s.Precedes t
  /-- Iterators only advance. -/
  advances : s.Advances t

/-- The state that did to what `s` had given out the same as `t`, and gave out no more. -/
def State.forget (s t : State) : State :=
  { t with iterators := t.iterators.extract 0 s.iterators.size, nextId := s.nextId }

/-- The same log, and the same left in each of the first `n` iterators. -/
structure State.Alike (n : Nat) (s t : State) : Prop where
  /-- The logs are the same. -/
  log : s.log = t.log
  /-- The iterators are the same. -/
  iterator : ∀ i < n, s.iterator i = t.iterator i

/-- The kind and message that are shown of a failure. -/
def Failure.report (e : Failure) : String × String :=
  (e.settled.kind, e.settled.message)

/-- Failures of the same kind with the same report have the same report among others. -/
theorem Failure.report_among {e f : Failure} (he : e.report = f.report) (hkind : e.kind = f.kind)
    (count : Nat) : (e.among count).report = (f.among count).report := by
  rw [among, among, iterated, iterated, endsIteration, endsIteration, hkind]
  split
  · exact he
  · split
    · rfl
    · exact he

/-- What is seen of two ends is the same: the value, or kind and message of the failure, and states
that are alike. -/
inductive EndsAlike {α : Type} (n : Nat) :
    EStateM.Result Failure State α → EStateM.Result Failure State α → Prop
  /-- Both have the same result. -/
  | ok {s t : State} (x : α) (h : s.Alike n t) : EndsAlike n (.ok x s) (.ok x t)
  /-- Both fail with the same report. -/
  | error {e f : Failure} {s t : State} (he : e.report = f.report) (h : s.Alike n t) :
      EndsAlike n (.error e s) (.error f t)

namespace Renaming

/-- What stands below the bounds is kept, and what stands above moves up. -/
def shift (idBound idShift placeBound placeShift : Nat) : Renaming where
  id i := if i < idBound then i else i + idShift
  place i := if i < placeBound then i else i + placeShift
  id_injective i j h := by
    simp only at h
    split at h <;> split at h <;> omega
  place_injective i j h := by
    simp only at h
    split at h <;> split at h <;> omega

/-- Nothing moves. -/
theorem keeps_shift_zero (s : State) : (shift 0 0 0 0).Keeps s :=
  ⟨fun _ _ => rfl, fun _ _ => rfl⟩

section

variable {ρ : Renaming} {s t : State}

/-- A renaming that keeps what a state has given out keeps what an earlier one had. -/
theorem Keeps.of_precedes (ht : ρ.Keeps t) (hst : s.Precedes t) : ρ.Keeps s :=
  ⟨fun i hi => ht.id i (Nat.lt_of_lt_of_le hi hst.nextId),
    fun i hi => ht.place i (Nat.lt_of_lt_of_le hi hst.size)⟩

/-- No other place is moved to one that is kept. -/
theorem Keeps.place_lt_iff (hρ : ρ.Keeps s) {i : Nat} :
    ρ.place i < s.iterators.size ↔ i < s.iterators.size := by
  constructor
  · intro hi
    rwa [ρ.place_injective (hρ.place _ hi)] at hi
  · intro hi
    rwa [hρ.place i hi]

/-- Where an iterator is looked up by a new place, the same one is found. -/
theorem Keeps.iterator_place (hρ : ρ.Keeps s) (i : Nat) :
    s.iterator (ρ.place i) = s.iterator i := by
  by_cases hi : i < s.iterators.size
  · rw [hρ.place i hi]
  · have hmoved := mt hρ.place_lt_iff.mp hi
    simp only [State.iterator, Array.getElem?_eq_none (Nat.le_of_not_lt hi),
      Array.getElem?_eq_none (Nat.le_of_not_lt hmoved)]

end

end Renaming

/-- What an iterator that is known can become is known. -/
theorem Iterator.Advances.rename_eq {ρ : Renaming} {it next : Iterator} (h : it.Advances next)
    (hit : it.rename ρ = it) : next.rename ρ = next := by
  cases it with
  | running =>
    obtain rfl : next = .running := h
    rfl
  | idle rest =>
    obtain ⟨left, rfl, hleft⟩ := h
    have hrest : rest.map (Suspended.rename ρ) = rest.map id := by
      rw [List.map_id]
      exact Iterator.idle.inj hit
    have hfixed : left.map (Suspended.rename ρ) = left.map id :=
      List.map_congr_left fun e he => List.map_inj_left.mp hrest e (hleft.mem he)
    rw [List.map_id] at hfixed
    exact congrArg Iterator.idle hfixed

namespace State

variable {s t u : State} {vs ws : List Value}

/-- What comes after one more identity was given out is later. -/
theorem before_succ (s : State) : s.Before { s with nextId := s.nextId + 1 } :=
  ⟨⟨Nat.le_succ _, Nat.le_refl _, rfl⟩, .of_iterators_eq rfl⟩

/-- States come before each other along a run. -/
theorem Before.trans (hst : s.Before t) (htu : t.Before u) : s.Before u :=
  ⟨hst.precedes.trans htu.precedes, hst.advances.trans htu.advances⟩

/-- Of the values that are known, each part is. -/
theorem Knows.subset (hs : s.Knows vs) (hws : ∀ v ∈ ws, v ∈ vs) : s.Knows ws :=
  { hs with values := fun ρ hρ v hv => hs.values ρ hρ v (hws v hv) }

/-- Values that are known stay as they are. -/
theorem Knows.map_rename (hs : s.Knows vs) {ρ : Renaming} (hρ : ρ.Keeps s) :
    vs.map (Value.rename ρ) = vs := by
  have hfixed : vs.map (Value.rename ρ) = vs.map id := List.map_congr_left (hs.values ρ hρ)
  rwa [List.map_id] at hfixed

/-- So do the values of earlier steps. -/
theorem Knows.map_renameBinding (hs : s.Knows vs) {ρ : Renaming} (hρ : ρ.Keeps s) :
    s.bindings.map (renameBinding ρ) = s.bindings := by
  have hfixed : s.bindings.map (renameBinding ρ) = s.bindings.map id :=
    List.map_congr_left fun b hb => congrArg (b.1, ·) (hs.bindings ρ hρ b hb)
  rwa [List.map_id] at hfixed

/-- A state that knows what it holds corresponds to itself under every renaming that keeps what it
and a later state have given out. -/
theorem Knows.matches_self (hs : s.Knows vs) (hst : s.Precedes t) {ρ : Renaming}
    (hρ : ρ.Keeps t) : (ρ.upTo t).Matches s s where
  log := rfl
  bindings := (hs.map_renameBinding (hρ.of_precedes hst)).symm
  nextId _ hj := hρ.id _ hj
  nextPlace _ hj := hρ.place _ hj
  inside _ := (hρ.of_precedes hst).place_lt_iff
  iterator i :=
    (hρ.of_precedes hst).iterator_place i |>.trans (hs.iterator ρ (hρ.of_precedes hst) i).symm

/-- A state that corresponds to itself holds what is not renamed. -/
theorem knows_of_matches_self (hvalues : ∀ ρ : Renaming, ρ.Keeps s → ∀ v ∈ vs, v.rename ρ = v)
    (hself : ∀ ρ : Renaming, ρ.Keeps s → (ρ.upTo s).Matches s s) : s.Knows vs where
  values := hvalues
  bindings ρ hρ b hb := by
    have hfixed : s.bindings.map (renameBinding ρ) = s.bindings.map id := by
      rw [List.map_id]
      exact (hself ρ hρ).bindings.symm
    exact congrArg Prod.snd (List.map_inj_left.mp hfixed b hb)
  iterator ρ hρ i := ((hself ρ hρ).iterator i).symm.trans (hρ.iterator_place i)

/-- As many iterators are left as there were. -/
theorem size_forget (hst : s.iterators.size ≤ t.iterators.size) :
    (s.forget t).iterators.size = s.iterators.size := by
  simp [forget, Nat.min_eq_left hst]

/-- Those that there were are as they are now. -/
theorem iterator_forget (hst : s.iterators.size ≤ t.iterators.size) (i : Nat) :
    (s.forget t).iterator i = if i < s.iterators.size then t.iterator i else .idle [] := by
  simp only [forget, State.iterator, Array.getElem?_extract, Nat.min_eq_left hst, Nat.zero_add,
    Nat.sub_zero]
  split <;> rfl

end State

namespace Action.Mentions

section

variable {α : Type} {g : Renaming → α → α} {a : Action α} {s t : State} {vs : List Value}

/-- Such an action gives nothing back. -/
theorem precedes (ha : a.Mentions g s) (u : State) : u.Precedes (a.stateAfter u) :=
  (ha ((Renaming.shift 0 0 0 0).upTo s) (Renaming.keeps_shift_zero s)).precedes u

/-- From a state that knows what it holds, the run corresponds to itself under every renaming that
keeps what the run has given out in the end. -/
theorem agrees_self (ha : a.Mentions g s) (hs : s.Knows vs) {ρ : Renaming}
    (hρ : ρ.Keeps (a.stateAfter s)) :
    (ρ.upTo (a.stateAfter s)).Agrees (g ρ) (a.run s) (a.run s) := by
  have hprecedes := ha.precedes s
  exact (ha (ρ.upTo (a.stateAfter s)) (hρ.of_precedes hprecedes)).agrees s s
    (hs.matches_self hprecedes hρ) ⟨Nat.le_refl _, Nat.le_refl _⟩

/-- Among others an action mentions what it does alone. -/
theorem among (ha : a.Mentions g s) (count : Nat) : (a.among count).Mentions g s :=
  fun κ hκ => (ha κ hκ).among count

/-- A result, and the state with it, is known to that state. -/
theorem knows_of_ok (ha : a.Mentions g s) (hs : s.Knows vs) {x : α} (hrun : a.run s = .ok x t) :
    t.Knows vs ∧ ∀ ρ : Renaming, ρ.Keeps t → g ρ x = x := by
  have hprecedes := ha.precedes s
  have hagrees := fun ρ => ha.agrees_self (ρ := ρ) hs
  rw [stateAfter_of_ok hrun] at hprecedes hagrees
  have hself : ∀ ρ : Renaming, ρ.Keeps t → g ρ x = x ∧ (ρ.upTo t).Matches t t := by
    intro ρ hρ
    have hend := hagrees ρ hρ
    rw [hrun] at hend
    obtain ⟨u, hu, hmatches⟩ := hend.of_ok
    obtain ⟨hx, rfl⟩ := EStateM.Result.ok.inj hu
    exact ⟨hx.symm, hmatches⟩
  refine ⟨State.knows_of_matches_self ?_ fun ρ hρ => (hself ρ hρ).2, fun ρ hρ => (hself ρ hρ).1⟩
  exact fun ρ hρ => hs.values ρ (hρ.of_precedes hprecedes)

/-- A run that only advances leaves a later state. -/
theorem before_of_ok (ha : a.Mentions g s) (hadvances : a.Advances) {x : α}
    (hrun : a.run s = .ok x t) : s.Before t :=
  ⟨stateAfter_of_ok hrun ▸ ha.precedes s, hadvances.of_ok hrun⟩

/-- The state of a failure knows what it holds. -/
theorem knows_of_error (ha : a.Mentions g s) (hs : s.Knows vs) {e : Failure}
    (hrun : a.run s = .error e t) : t.Knows vs := by
  have hprecedes := ha.precedes s
  have hagrees := fun ρ => ha.agrees_self (ρ := ρ) hs
  rw [stateAfter_of_error hrun] at hprecedes hagrees
  refine State.knows_of_matches_self (fun ρ hρ => hs.values ρ (hρ.of_precedes hprecedes)) ?_
  intro ρ hρ
  have hend := hagrees ρ hρ
  rw [hrun] at hend
  obtain ⟨u, hu, hmatches⟩ | ⟨hup, -⟩ := hend.of_error
  · obtain ⟨-, rfl⟩ := EStateM.Result.error.inj hu
    exact hmatches
  · exact hup.elim

end

end Action.Mentions

/-- No report shows an identity. -/
theorem Failure.report_rename (ρ : Renaming) (e : Failure) : (e.rename ρ).report = e.report := by
  rw [report, report, settled_rename, kind_rename, message_rename]

namespace State

variable {s t u : State} {vs : List Value}

/-- Keeps what the first state has given out, and moves up what comes after it by as much as the
second has given out since. -/
def shiftTo (s t : State) : Renaming :=
  .shift s.nextId (t.nextId - s.nextId) s.iterators.size (t.iterators.size - s.iterators.size)

/-- What was given out before is kept. -/
theorem keeps_shiftTo (s t : State) : (s.shiftTo t).Keeps s :=
  ⟨fun _ hi => if_pos hi, fun _ hi => if_pos hi⟩

/-- A later state is the one that forgets what was given out since, with all that is given out from
there on moved up. -/
theorem Before.matches_forget (hst : s.Before t) (hs : s.Knows vs) (u : State) :
    ((s.shiftTo t).upTo u).Matches (s.forget t) t := by
  have hkeeps := keeps_shiftTo s t
  have hnext := hst.precedes.nextId
  have hsize := hst.precedes.size
  have hid : ∀ i, (s.shiftTo t).id i = if i < s.nextId then i else i + (t.nextId - s.nextId) :=
    fun i => rfl
  have hplace : ∀ i, (s.shiftTo t).place i = if i < s.iterators.size then i
      else i + (t.iterators.size - s.iterators.size) := fun i => rfl
  exact {
    log := rfl
    bindings := by
      show t.bindings = t.bindings.map (renameBinding (s.shiftTo t))
      rw [hst.precedes.bindings, hs.map_renameBinding hkeeps]
    nextId := fun j _ => by
      show (s.shiftTo t).id (s.nextId + j) = t.nextId + j
      rw [hid, if_neg (by omega)]
      omega
    nextPlace := fun j _ => by
      show (s.shiftTo t).place ((s.forget t).iterators.size + j) = t.iterators.size + j
      rw [size_forget hsize, hplace, if_neg (by omega)]
      omega
    inside := fun i => by
      show (s.shiftTo t).place i < t.iterators.size ↔ i < (s.forget t).iterators.size
      rw [size_forget hsize, hplace]
      split <;> omega
    iterator := fun i => by
      show t.iterator ((s.shiftTo t).place i) = ((s.forget t).iterator i).rename (s.shiftTo t)
      rw [iterator_forget hsize]
      by_cases hi : i < s.iterators.size
      · rw [if_pos hi, hkeeps.place i hi]
        exact ((hst.advances.iterator i hi).rename_eq (hs.iterator _ hkeeps i)).symm
      · have hmoved : t.iterators.size ≤ (s.shiftTo t).place i := by
          rw [hplace, if_neg hi]
          omega
        rw [if_neg hi, State.iterator, Array.getElem?_eq_none hmoved]
        rfl }

/-- States that are alike in what was given out before are the same without what was given out
since. -/
theorem forget_eq_forget (ht : s.Precedes t) (hu : s.Precedes u)
    (htu : t.Alike s.iterators.size u) : s.forget t = s.forget u := by
  have hiterators : t.iterators.extract 0 s.iterators.size =
      u.iterators.extract 0 s.iterators.size := by
    refine Array.ext (by simp [ht.size, hu.size]) fun i hi _ => ?_
    have his : i < s.iterators.size := by
      simp only [Array.size_extract] at hi
      omega
    have hi' := htu.iterator i his
    have hit := Nat.lt_of_lt_of_le his ht.size
    have hiu := Nat.lt_of_lt_of_le his hu.size
    simpa [State.iterator, hit, hiu] using hi'
  show (⟨t.log, _, s.nextId, t.bindings⟩ : State) = ⟨u.log, _, s.nextId, u.bindings⟩
  rw [hiterators, htu.log, ht.bindings, hu.bindings]

theorem Alike.refl (n : Nat) (s : State) : s.Alike n s := ⟨rfl, fun _ _ => rfl⟩

theorem Alike.symm {n : Nat} (h : s.Alike n t) : t.Alike n s :=
  ⟨h.log.symm, fun i hi => (h.iterator i hi).symm⟩

/-- If two states are alike and so are the second and a third, so are the first and the third. -/
theorem Alike.trans {n : Nat} (hst : s.Alike n t) (htu : t.Alike n u) : s.Alike n u :=
  ⟨hst.log.trans htu.log, fun i hi => (hst.iterator i hi).trans (htu.iterator i hi)⟩

/-- States that are alike in more iterators are alike in fewer. -/
theorem Alike.of_le {n m : Nat} (h : s.Alike m t) (hnm : n ≤ m) : s.Alike n t :=
  ⟨h.log, fun i hi => h.iterator i (Nat.lt_of_lt_of_le hi hnm)⟩

end State

namespace EndsAlike

variable {α β : Type} {n m : Nat} {r r' r'' : EStateM.Result Failure State α}

/-- A run ends like itself. -/
theorem refl (n : Nat) (r : EStateM.Result Failure State α) : EndsAlike n r r := by
  cases r with
  | ok x s => exact .ok x (.refl n s)
  | error e s => exact .error rfl (.refl n s)

theorem symm (h : EndsAlike n r r') : EndsAlike n r' r := by
  cases h with
  | ok x h => exact .ok x h.symm
  | error he h => exact .error he.symm h.symm

theorem trans (h : EndsAlike n r r') (h' : EndsAlike n r' r'') : EndsAlike n r r'' := by
  cases h with
  | ok x h =>
    cases h' with
    | ok _ h' => exact .ok x (h.trans h')
  | error he h =>
    cases h' with
    | error he' h' => exact .error (he.trans he') (h.trans h')

/-- Ends that are alike in more iterators are alike in fewer. -/
theorem of_le (h : EndsAlike m r r') (hnm : n ≤ m) : EndsAlike n r r' := by
  cases h with
  | ok x h => exact .ok x (h.of_le hnm)
  | error he h => exact .error he (h.of_le hnm)

/-- Steps in a row end alike when the first ones do, and then the second ones from the states that
these reached. -/
theorem bind {a b : Action α} {f k : α → Action β} {s t : State}
    (h : EndsAlike n (a.run s) (b.run t))
    (hf : ∀ x u v, a.run s = .ok x u → b.run t = .ok x v → u.Alike n v →
      EndsAlike n ((f x).run u) ((k x).run v)) :
    EndsAlike n ((a >>= f).run s) ((b >>= k).run t) := by
  rw [EStateM.run_bind, EStateM.run_bind]
  generalize ha : a.run s = ra at h hf
  generalize hb : b.run t = rb at h hf
  cases h with
  | ok x h => exact hf x _ _ rfl rfl h
  | error he h => exact .error he h

/-- What ends alike, with failures of the same kind, ends alike among others. -/
theorem among {a b : Action α} {s t : State} (h : EndsAlike n (a.run s) (b.run t))
    (hkind : ∀ e f u v, a.run s = .error e u → b.run t = .error f v → e.kind = f.kind)
    (count : Nat) : EndsAlike n ((a.among count).run s) ((b.among count).run t) := by
  cases ha : a.run s with
  | ok x u =>
    cases hb : b.run t with
    | ok y v =>
      rw [ha, hb] at h
      rwa [Action.run_among_eq_ok_iff.mpr ha, Action.run_among_eq_ok_iff.mpr hb]
    | error f v =>
      rw [ha, hb] at h
      cases h
  | error e u =>
    cases hb : b.run t with
    | ok y v =>
      rw [ha, hb] at h
      cases h
    | error f v =>
      rw [ha, hb] at h
      rw [Action.run_among_eq_error_iff.mpr ⟨e, ha, rfl⟩,
        Action.run_among_eq_error_iff.mpr ⟨f, hb, rfl⟩]
      cases h with
      | error he h => exact .error (Failure.report_among he (hkind e f u v ha hb) count) h

/-- If both have a result, it is the same, and the states are alike. -/
theorem of_ok {x y : α} {s t : State} (h : EndsAlike n (.ok x s) (.ok y t)) :
    x = y ∧ s.Alike n t := by
  cases h with
  | ok _ h => exact ⟨rfl, h⟩

/-- Behind one and the same first step, only the second steps have to end alike. -/
theorem bind_left {a : Action α} {f k : α → Action β} {s : State}
    (hf : ∀ x u, a.run s = .ok x u → EndsAlike n ((f x).run u) ((k x).run u)) :
    EndsAlike n ((a >>= f).run s) ((a >>= k).run s) := by
  refine (refl n (a.run s)).bind fun x u v hu hv _ => ?_
  obtain rfl := (EStateM.Result.ok.inj (hu.symm.trans hv)).2
  exact hf x u hu

/-- First steps may have different results, as long as the second steps see the same of them. -/
theorem bind_of_map {γ : Type} {a b : Action α} {g : α → γ} {f k : α → Action β} {s t : State}
    (h : EndsAlike n ((g <$> a).run s) ((g <$> b).run t))
    (hf : ∀ x y u v, a.run s = .ok x u → b.run t = .ok y v → g x = g y → u.Alike n v →
      EndsAlike n ((f x).run u) ((k y).run v)) :
    EndsAlike n ((a >>= f).run s) ((b >>= k).run t) := by
  rw [map_eq_pure_bind, map_eq_pure_bind, EStateM.run_bind, EStateM.run_bind] at h
  rw [EStateM.run_bind, EStateM.run_bind]
  cases ha : a.run s with
  | ok x u =>
    cases hb : b.run t with
    | ok y v =>
      rw [ha, hb] at h
      obtain ⟨hxy, huv⟩ := h.of_ok
      exact hf x y u v ha hb hxy huv
    | error f v =>
      rw [ha, hb] at h
      cases h
  | error e u =>
    rw [ha] at h
    cases hb : b.run t with
    | ok y v =>
      rw [hb] at h
      cases h
    | error f v =>
      rw [hb] at h
      cases h with
      | error he h => exact .error he h

end EndsAlike

/-- Where what was given out since is forgotten, an action ends like any one that follows it with
the names that are moved up. -/
theorem Action.endsAlike_forget {a : Action String} {b : Renaming → Action String} {s t : State}
    {vs : List Value}
    (hab : ∀ κ : Correspondence, κ.toRenaming.Keeps s →
      a.Follows κ (Renaming.onText κ.toRenaming) (b κ.toRenaming))
    (hadvances : a.Advances) (hs : s.Knows vs) (hst : s.Before t) :
    EndsAlike s.iterators.size (a.run (s.forget t)) ((b (s.shiftTo t)).run t) := by
  have hkeeps := State.keeps_shiftTo s t
  have hsize := hst.precedes.size
  have hagrees : ((s.shiftTo t).upTo (a.stateAfter (s.forget t))).Agrees
      (Renaming.onText (s.shiftTo t)) (a.run (s.forget t)) ((b (s.shiftTo t)).run t) :=
    (hab _ hkeeps).agrees _ _ (hst.matches_forget hs _) ⟨Nat.le_refl _, Nat.le_refl _⟩
  -- the iterators that `s` made hold what it knows, also in the end
  have halike : ∀ u v w : State, (s.forget t).Advances v →
      ((s.shiftTo t).upTo u).Matches v w → v.Alike s.iterators.size w := by
    intro u v w hv hvw
    refine ⟨hvw.log.symm, fun i hi => ?_⟩
    have hi' := hv.iterator i ((State.size_forget hsize).symm ▸ hi)
    rw [State.iterator_forget hsize, if_pos hi] at hi'
    have hfixed := ((hst.advances.iterator i hi).trans hi').rename_eq (hs.iterator _ hkeeps i)
    have hiterator : w.iterator ((s.shiftTo t).place i) =
        (v.iterator i).rename (s.shiftTo t) := hvw.iterator i
    rw [hkeeps.place i hi, hfixed] at hiterator
    exact hiterator.symm
  cases hrun : a.run (s.forget t) with
  | ok x v =>
    rw [hrun] at hagrees
    obtain ⟨w, hw, hvw⟩ := hagrees.of_ok
    rw [hw]
    exact .ok x (halike _ v w (hadvances.of_ok hrun) hvw)
  | error e v =>
    rw [hrun] at hagrees
    obtain ⟨w, hw, hvw⟩ | ⟨hup, -⟩ := hagrees.of_error
    · rw [hw]
      exact .error (e.report_rename _).symm (halike _ v w (hadvances.of_error hrun) hvw)
    · exact hup.elim

namespace Action.Mentions

variable {a : Action String} {s t u : State} {vs : List Value}

/-- What was given out since does not affect what is seen. -/
theorem endsAlike_forget (ha : a.Mentions Renaming.onText s) (hadvances : a.Advances)
    (hs : s.Knows vs) (hst : s.Before t) :
    EndsAlike s.iterators.size (a.run (s.forget t)) (a.run t) :=
  Action.endsAlike_forget (b := fun _ => a) ha hadvances hs hst

/-- From later states that are alike in what was given out before, an action that mentions nothing
else ends alike. -/
theorem endsAlike (ha : a.Mentions Renaming.onText s) (hadvances : a.Advances) (hs : s.Knows vs)
    (ht : s.Before t) (hu : s.Before u) (htu : t.Alike s.iterators.size u) :
    EndsAlike s.iterators.size (a.run t) (a.run u) := by
  have ht' := ha.endsAlike_forget hadvances hs ht
  rw [State.forget_eq_forget ht.precedes hu.precedes htu] at ht'
  exact ht'.symm.trans (ha.endsAlike_forget hadvances hs hu)

end Action.Mentions

namespace State.Knows

variable {s : State} {items vs : List Value}

/-- A state that holds nothing knows the values whose identities it has given out. -/
theorem of_holds_nothing (log : Array String) (nextId : Nat)
    (hvs : ∀ ρ : Renaming, (∀ i < nextId, ρ.id i = i) → ∀ v ∈ vs, v.rename ρ = v) :
    (⟨log, #[], nextId, []⟩ : State).Knows vs where
  values ρ hρ := hvs ρ hρ.id
  bindings _ _ := List.forall_mem_nil _
  iterator _ _ _ := rfl

/-- Knowledge is about what was given out, what the iterators hold, and the values of earlier steps,
which may change to known ones. -/
theorem rebind {t : State} (hs : s.Knows vs) (hid : t.nextId = s.nextId)
    (hiterators : t.iterators = s.iterators)
    (hbindings : ∀ ρ : Renaming, ρ.Keeps s → ∀ b ∈ t.bindings, b.2.rename ρ = b.2) :
    t.Knows vs := by
  have hkeeps : ∀ ρ : Renaming, ρ.Keeps t → ρ.Keeps s := fun ρ hρ =>
    ⟨hid ▸ hρ.id, hiterators ▸ hρ.place⟩
  refine ⟨fun ρ hρ => hs.values ρ (hkeeps ρ hρ), fun ρ hρ => hbindings ρ (hkeeps ρ hρ), ?_⟩
  intro ρ hρ i
  have hi := hs.iterator ρ (hkeeps ρ hρ) i
  rwa [State.iterator, ← hiterators] at hi

/-- One more identity is given out, and nothing else. -/
theorem succ (hs : s.Knows vs) : ({ s with nextId := s.nextId + 1 } : State).Knows vs := by
  have hkeeps : ∀ ρ : Renaming, ρ.Keeps { s with nextId := s.nextId + 1 } → ρ.Keeps s :=
    fun ρ hρ => ⟨fun i hi => hρ.id i (Nat.lt_succ_of_lt hi), hρ.place⟩
  exact ⟨fun ρ hρ => hs.values ρ (hkeeps ρ hρ), fun ρ hρ => hs.bindings ρ (hkeeps ρ hρ),
    fun ρ hρ => hs.iterator ρ (hkeeps ρ hρ)⟩

/-- A value that every such renaming keeps is known besides. -/
theorem cons {v : Value} (hs : s.Knows vs)
    (hv : ∀ ρ : Renaming, ρ.Keeps s → v.rename ρ = v) : s.Knows (v :: vs) :=
  { hs with
    values := fun ρ hρ w hw => by
      rcases List.mem_cons.mp hw with rfl | hw
      · exact hv ρ hρ
      · exact hs.values ρ hρ w hw }

theorem singleton {v : Value} (hs : s.Knows vs)
    (hv : ∀ ρ : Renaming, ρ.Keeps s → v.rename ρ = v) : s.Knows [v] :=
  { hs with
    values := fun ρ hρ w hw => by
      obtain rfl := List.mem_singleton.mp hw
      exact hv ρ hρ }

/-- So are several values. -/
theorem append (hs : s.Knows vs) (hitems : ∀ ρ : Renaming, ρ.Keeps s → renameAll ρ items = items) :
    s.Knows (items ++ vs) :=
  { hs with
    values := fun ρ hρ v hv => by
      have hfixed : items.map (Value.rename ρ) = items.map id := by
        rw [List.map_id, ← renameAll_eq, hitems ρ hρ]
      rcases List.mem_append.mp hv with hv | hv
      · exact List.map_inj_left.mp hfixed v hv
      · exact hs.values ρ hρ v hv }

/-- The elements of a list that is known are known. -/
theorem of_list (hs : s.Knows (.list items :: vs)) : s.Knows (items ++ vs) :=
  (hs.subset fun _ => List.mem_cons_of_mem _).append fun ρ hρ =>
    Value.list.inj (hs.values ρ hρ (.list items) List.mem_cons_self)

/-- The elements of a tuple that is known are known. -/
theorem of_tuple (hs : s.Knows (.tuple items :: vs)) : s.Knows (items ++ vs) :=
  (hs.subset fun _ => List.mem_cons_of_mem _).append fun ρ hρ =>
    Value.tuple.inj (hs.values ρ hρ (.tuple items) List.mem_cons_self)

/-- A context that is known stays as it is. -/
theorem context_rename {c : Context} (hs : s.Knows (.context c :: vs)) {ρ : Renaming}
    (hρ : ρ.Keeps s) : c.rename ρ = c :=
  Value.context.inj (hs.values ρ hρ (.context c) List.mem_cons_self)

end State.Knows

section

variable {h : Host} (hh : h.Uniform) {s : State}
include hh

/-- Rendering mentions the context and the templates. -/
theorem Context.render_mentions {c : Context} {templates : List Value}
    (hs : s.Knows (.context c :: templates)) :
    (c.render h templates).Mentions Renaming.onText s := by
  intro κ hκ
  have hrender := c.render_follows (hh κ) templates
  have htemplates := (hs.subset fun _ => List.mem_cons_of_mem _).map_rename hκ
  rw [htemplates, hs.context_rename hκ] at hrender
  exact hrender

/-- Rendering against data mentions the data and the templates. -/
theorem applyData_mentions {data template : Value} {templates : List Value}
    (hs : s.Knows (data :: template :: templates)) :
    (applyData h data template templates).Mentions Renaming.onText s := by
  intro κ hκ
  have happly := applyData_follows (hh κ) data template templates
  have hall := hs.map_rename hκ
  rw [List.map_cons, List.map_cons, List.cons.injEq, List.cons.injEq] at hall
  rw [hall.1, hall.2.1, hall.2.2] at happly
  exact happly

/-- Outside of all functions, an expression mentions no values at all. -/
theorem Expr.eval_mentions (e : Expr) (s : State) :
    (e.eval h []).Mentions Value.rename s := fun κ _ => e.eval_follows (hh κ) []

end

namespace Session

/-- The states from which the steps of a session start. -/
inductive Arises : State → Prop
  /-- A fresh session. -/
  | start : Arises default
  /-- After a step. -/
  | step {s : State} (hs : Arises s) (name : String) (e : Expr) :
      Arises (bindOutcome name (evaluate e s).1 (evaluate e s).2)

/-- What the outcome of a step is bound to is known to the state that the step leaves. -/
theorem knows_evaluate (e : Expr) {s : State} (hs : s.Knows []) :
    (evaluate e s).2.Knows
      [match (evaluate e s).1.result with
        | .ok v => v
        | .error _ => .null] := by
  have hcleared : ({ s with log := #[] } : State).Knows [] := hs.rebind rfl rfl hs.bindings
  have hmentions := Expr.eval_mentions (Host.ofDepth_uniform callDepth) e { s with log := #[] }
  unfold evaluate
  cases hrun : e.eval (Host.ofDepth callDepth) [] { s with log := #[] } with
  | error f t => exact (hmentions.knows_of_error hcleared hrun).singleton fun _ _ => rfl
  | ok v t =>
    obtain ⟨ht, hv⟩ := hmentions.knows_of_ok hcleared hrun
    by_cases hshow : v.isShowable = true
    · simp only [shown, hshow, ite_true]
      exact ht.singleton hv
    · simp only [shown, hshow]
      exact ht.singleton fun _ _ => rfl

/-- What a session holds between its steps is known: no state of a session holds an identity that
was not given out. -/
theorem Arises.knows {s : State} (hs : Arises s) : s.Knows [] := by
  induction hs with
  | start => exact .of_holds_nothing #[] 0 fun _ _ => List.forall_mem_nil _
  | step hs name e ih =>
    have hknows := knows_evaluate e ih
    refine (hknows.subset (List.forall_mem_nil _)).rebind rfl rfl fun ρ hρ b hb => ?_
    rcases List.mem_cons.mp hb with rfl | hb
    · exact hknows.values ρ hρ _ List.mem_cons_self
    · exact hknows.bindings ρ hρ b hb

end Session

end Stencil
