import Stencil.Proofs.Renaming.Run

/-!
# Runs at different depths

A host of some depth gives up where calls nest deeper. A deeper host does the same otherwise
(`Context.render_approximates`), so a run that does not give up at one depth comes to the same end
at all greater ones: what a script comes to, wherever it does (`Finishes`), is independent of the
depth.
-/

namespace Stencil

/-- Every identity is kept. -/
def Renaming.refl : Renaming := ⟨fun i => i, fun i => i, fun _ _ h => h, fun _ _ h => h⟩

mutual

/-- A value with the identities that it has is the value. -/
theorem Value.rename_refl : ∀ v : Value, v.rename .refl = v
  | .list items => by rw [Value.rename, renameAll_refl items]
  | .tuple items => by rw [Value.rename, renameAll_refl items]
  | .dict entries => by rw [Value.rename, renameEntries_refl entries]
  | .function f => by rw [Value.rename, f.rename_refl]
  | .applied id f bound => by
    rw [Value.rename, f.rename_refl, renameAll_refl bound]
    rfl
  | .context c => by rw [Value.rename, c.rename_refl]
  | .null | .bool _ | .int _ | .str _ | .bytes _ | .range _ | .iterator _ | .shape _ => rfl

/-- So is a function. -/
theorem Closure.rename_refl : ∀ f : Closure, f.rename .refl = f
  | ⟨id, name, signature, body, scope⟩ => by
    rw [Closure.rename, renameScope_refl scope]
    rfl

/-- So is a context, with those above it. -/
theorem Context.rename_refl : ∀ c : Context, c.rename .refl = c
  | ⟨id, data, parent, index, name, depth⟩ => by
    rw [Context.rename, data.rename_refl, renameParent_refl parent, index.rename_refl,
      name.rename_refl]
    rfl

theorem renameParent_refl : ∀ parent : Option Context, renameParent .refl parent = parent
  | none => rfl
  | some p => by rw [renameParent, p.rename_refl]

theorem renameAll_refl : ∀ vs : List Value, renameAll .refl vs = vs
  | [] => rfl
  | v :: vs => by rw [renameAll, v.rename_refl, renameAll_refl vs]

theorem renameEntries_refl : ∀ es : List (Value × Value), renameEntries .refl es = es
  | [] => rfl
  | (k, v) :: es => by rw [renameEntries, k.rename_refl, v.rename_refl, renameEntries_refl es]

theorem renameScope_refl : ∀ scope : List (List Value), renameScope .refl scope = scope
  | [] => rfl
  | arguments :: scope => by rw [renameScope, renameAll_refl arguments, renameScope_refl scope]

end

/-- Several values are not changed either. -/
theorem map_rename_refl (vs : List Value) : vs.map (Value.rename .refl) = vs := by
  rw [← renameAll_eq, renameAll_refl]

/-- A failure names the same values. -/
theorem Failure.rename_refl (e : Failure) : e.rename .refl = e := by
  cases e <;> simp only [Failure.rename, Value.rename_refl]

/-- An iterator has the same elements left. -/
theorem Iterator.rename_refl (it : Iterator) : it.rename .refl = it := by
  cases it with
  | running => rfl
  | idle rest =>
    have hfixed : rest.map (Suspended.rename .refl) = rest.map id := by
      refine List.map_congr_left fun e _ => ?_
      rw [Suspended.rename, ← renameScope_eq, renameScope_refl]
      rfl
    rw [Iterator.rename, hfixed, List.map_id]

namespace Correspondence

variable {κ : Correspondence} (hκ : κ.toRenaming = .refl) {s t : State}
include hκ

/-- A state corresponds to itself. -/
theorem matches_refl (s : State) : κ.Matches s s where
  log := rfl
  bindings := by
    have hfixed : s.bindings.map (renameBinding κ) = s.bindings.map id :=
      List.map_congr_left fun b _ => by
        rw [hκ, renameBinding, Value.rename_refl]
        rfl
    rw [hfixed, List.map_id]
  nextId j _ := by rw [hκ]; rfl
  nextPlace j _ := by rw [hκ]; rfl
  inside i := by rw [hκ]; rfl
  iterator i := by rw [hκ, Iterator.rename_refl]; rfl

/-- States that correspond under names that stay are equal, if the next identity is accounted
for. -/
theorem Matches.eq_of_refl (hst : κ.Matches s t) (hid : s.nextId < κ.idLimit) : t = s := by
  have hnext : t.nextId = s.nextId := by
    have hnext := hst.nextId 0 hid
    rw [hκ] at hnext
    exact hnext.symm
  have hbindings : t.bindings = s.bindings := by
    rw [hst.bindings, ← (matches_refl hκ s).bindings]
  have hinside : ∀ i, i < t.iterators.size ↔ i < s.iterators.size := fun i => by
    have hi := hst.inside i
    rwa [hκ] at hi
  have hsize : t.iterators.size = s.iterators.size := by
    have hs := hinside s.iterators.size
    have ht := hinside t.iterators.size
    omega
  have hiterators : t.iterators = s.iterators := by
    refine Array.ext hsize fun i hit his => ?_
    have hi := hst.iterator i
    rw [hκ, Iterator.rename_refl] at hi
    simpa [State.iterator, his, Renaming.refl, hit] using hi
  show (⟨t.log, t.iterators, t.nextId, t.bindings⟩ : State) =
    ⟨s.log, s.iterators, s.nextId, s.bindings⟩
  rw [hst.log, hiterators, hnext, hbindings]

end Correspondence

namespace Action

/-- The action gives up because calls nest too deeply. -/
def GivesUp {α : Type} (a : Action α) (s : State) : Prop :=
  ∃ t, a.run s = .error .tooDeep t

/-- The second action comes to the same end as the first, wherever the first does not give up. -/
def Approximates {α : Type} (a b : Action α) : Prop :=
  ∀ s, a.run s = b.run s ∨ a.GivesUp s

section

variable {α β : Type} {a b : Action α} {f k : α → Action β}

/-- An action approximates itself. -/
theorem Approximates.refl (a : Action α) : a.Approximates a := fun _ => .inl rfl

/-- One that gives up approximates every action. -/
theorem Approximates.throw_tooDeep (a : Action α) :
    (throw .tooDeep : Action α).Approximates a := fun s => .inr ⟨s, rfl⟩

/-- One action after the other is approximated part by part. -/
theorem Approximates.bind (hab : a.Approximates b) (hf : ∀ x, (f x).Approximates (k x)) :
    (a >>= f).Approximates (b >>= k) := by
  intro s
  rcases hab s with h | ⟨t, h⟩
  · cases hrun : b.run s with
    | error e t =>
      refine .inl ?_
      rw [EStateM.run_bind, EStateM.run_bind, h, hrun]
    | ok x t =>
      have hfirst := h.trans hrun
      rcases hf x t with h' | ⟨u, h'⟩
      · refine .inl ?_
        rw [EStateM.run_bind, EStateM.run_bind, hfirst, hrun]
        exact h'
      · refine .inr ⟨u, ?_⟩
        rw [EStateM.run_bind, hfirst]
        exact h'
  · refine .inr ⟨t, ?_⟩
    rw [EStateM.run_bind, h]

/-- In an iteration an action approximates another one as it does alone. -/
theorem Approximates.iterated (hab : a.Approximates b) : a.iterated.Approximates b.iterated := by
  intro s
  rcases hab s with h | ⟨t, h⟩
  · exact .inl (run_iterated_congr h)
  · exact .inr ⟨t, run_iterated_eq_error_iff.mpr ⟨_, h, rfl⟩⟩

/-- Among others, an action is approximated as it is alone. -/
theorem Approximates.among (count : Nat) (hab : a.Approximates b) :
    (a.among count).Approximates (b.among count) := by
  rcases Nat.lt_or_ge 1 count with hcount | hcount
  · rw [among_of_one_lt hcount, among_of_one_lt hcount]
    exact hab.iterated
  · rwa [among_of_le_one hcount, among_of_le_one hcount]

/-- What follows under names that stay, and only gives up earlier, approximates. -/
theorem Approximates.of_follows
    (h : ∀ κ : Correspondence, κ.toRenaming = .refl → κ.mayGiveUp →
      a.Follows κ (fun x => x) b) : a.Approximates b := by
  intro s
  let κ : Correspondence :=
    { Renaming.refl with
      idLimit := (a.stateAfter s).nextId + 1
      placeLimit := (a.stateAfter s).iterators.size
      mayGiveUp := True }
  have hagrees := (h κ rfl trivial).agrees s s (κ.matches_refl rfl s)
    ⟨Nat.le_succ _, Nat.le_refl _⟩
  cases hrun : a.run s with
  | ok x t =>
    rw [hrun] at hagrees
    obtain ⟨u, hu, hmatches⟩ := hagrees.of_ok
    have hlimit : t.nextId < κ.idLimit := by
      show t.nextId < (a.stateAfter s).nextId + 1
      rw [stateAfter_of_ok hrun]
      exact Nat.lt_succ_self _
    rw [hmatches.eq_of_refl rfl hlimit] at hu
    exact .inl hu.symm
  | error e t =>
    rw [hrun] at hagrees
    obtain ⟨u, hu, hmatches⟩ | ⟨-, rfl⟩ := hagrees.of_error
    · have hlimit : t.nextId < κ.idLimit := by
        show t.nextId < (a.stateAfter s).nextId + 1
        rw [stateAfter_of_error hrun]
        exact Nat.lt_succ_self _
      rw [hmatches.eq_of_refl rfl hlimit] at hu
      refine .inl (hu.trans ?_).symm
      show EStateM.Result.error (e.rename .refl) t = _
      rw [e.rename_refl]
    · exact .inr ⟨t, hrun⟩

end

end Action

/-- Where calls may nest deeper, rendering comes to the same end or no longer gives up. -/
theorem Context.render_approximates (c : Context) (templates : List Value) {n m : Nat}
    (hnm : n ≤ m) : (c.render (.ofDepth n) templates).Approximates
      (c.render (.ofDepth m) templates) := by
  refine .of_follows fun κ hκ hup => ?_
  have hrender := c.render_follows (Host.ofDepth_follows κ (.inr ⟨hup, hnm⟩)) templates
  rwa [hκ, c.rename_refl, map_rename_refl] at hrender

/-- What a script comes to from a state, if calls may nest as deeply as it takes. -/
def Finishes {α : Type} (a : Host → Action α) (s : State)
    (r : EStateM.Result Failure State α) : Prop :=
  ∃ depth, (a (.ofDepth depth)).run s = r ∧ ¬(a (.ofDepth depth)).GivesUp s

/-- A script that approximates another one at some depth comes to what that one does. -/
theorem Finishes.of_approximates {α : Type} {a b : Host → Action α}
    (hab : ∀ n, ∃ m, (a (.ofDepth n)).Approximates (b (.ofDepth m))) {s : State}
    {r : EStateM.Result Failure State α} (h : Finishes a s r) : Finishes b s r := by
  obtain ⟨n, hrun, hends⟩ := h
  obtain ⟨m, hnm⟩ := hab n
  have hsame : (a (.ofDepth n)).run s = (b (.ofDepth m)).run s := (hnm s).resolve_right hends
  refine ⟨m, hsame.symm.trans hrun, ?_⟩
  rintro ⟨t, ht⟩
  exact hends ⟨t, hsame.trans ht⟩

/-- Scripts that do the same from a state at every depth come to the same. -/
theorem Finishes.congr {α : Type} {a b : Host → Action α} {s : State}
    (hab : ∀ h, (a h).run s = (b h).run s) (r : EStateM.Result Failure State α) :
    Finishes a s r ↔ Finishes b s r := by
  simp only [Finishes, Action.GivesUp, hab]

/-- Where calls may nest deeper, a script comes to the same end or no longer gives up. -/
def Deepens {α : Type} (a : Host → Action α) : Prop :=
  ∀ n m, n ≤ m → (a (.ofDepth n)).Approximates (a (.ofDepth m))

section

variable {α β : Type} {a b : Host → Action α} {f k : α → Host → Action β} {s t : State}

/-- What makes no calls comes to the same at all depths. -/
theorem Deepens.const (a : Action α) : Deepens fun _ => a := fun _ _ _ => .refl a

/-- One action after the other deepens if both do. -/
theorem Deepens.bind (ha : Deepens a) (hf : ∀ x, Deepens (f x)) :
    Deepens fun h => a h >>= fun x => f x h :=
  fun n m hnm => (ha n m hnm).bind fun x => hf x n m hnm

/-- What follows itself at a greater depth, under names that stay, deepens. -/
theorem Deepens.of_follows
    (ha : ∀ (κ : Correspondence) (n m : Nat), κ.toRenaming = .refl →
      (Host.ofDepth n).Follows κ (.ofDepth m) →
      (a (.ofDepth n)).Follows κ (fun x => x) (a (.ofDepth m))) : Deepens a :=
  fun n m hnm => .of_follows fun κ hκ hup =>
    ha κ n m hκ (Host.ofDepth_follows κ (.inr ⟨hup, hnm⟩))

/-- What a script came to at some depth, it comes to at all greater ones. -/
theorem Deepens.run_of_le (ha : Deepens a) {n m : Nat} (hnm : n ≤ m)
    (hends : ¬(a (.ofDepth n)).GivesUp s) :
    (a (.ofDepth m)).run s = (a (.ofDepth n)).run s :=
  ((ha n m hnm s).resolve_right hends).symm

/-- A script that finishes with a result does so at some depth. -/
theorem finishes_ok_iff {x : α} :
    Finishes a s (.ok x t) ↔ ∃ depth, (a (.ofDepth depth)).run s = .ok x t := by
  refine exists_congr fun depth => and_iff_left_of_imp fun hrun => ?_
  rintro ⟨u, hu⟩
  cases hrun.symm.trans hu

/-- Scripts in a row come to what the second one does after the first, or to the failure of the
first. -/
theorem finishes_bind_iff (ha : Deepens a) (hf : ∀ x, Deepens (f x))
    {r : EStateM.Result Failure State β} :
    Finishes (fun h => a h >>= fun x => f x h) s r ↔
      (∃ x t, Finishes a s (.ok x t) ∧ Finishes (f x) t r) ∨
        ∃ e t, Finishes a s (.error e t) ∧ r = .error e t := by
  constructor
  · rintro ⟨n, hrun, hends⟩
    cases hfirst : (a (.ofDepth n)).run s with
    | ok x t =>
      have hsecond : ((a (.ofDepth n)) >>= fun x => f x (.ofDepth n)).run s =
          (f x (.ofDepth n)).run t := by
        rw [EStateM.run_bind, hfirst]
      refine .inl ⟨x, t, finishes_ok_iff.mpr ⟨n, hfirst⟩, n, hsecond.symm.trans hrun, ?_⟩
      rintro ⟨u, hu⟩
      exact hends ⟨u, hsecond.trans hu⟩
    | error e t =>
      have hboth : ((a (.ofDepth n)) >>= fun x => f x (.ofDepth n)).run s = .error e t := by
        rw [EStateM.run_bind, hfirst]
      refine .inr ⟨e, t, ⟨n, hfirst, ?_⟩, hrun.symm.trans hboth⟩
      rintro ⟨u, hu⟩
      obtain ⟨rfl, rfl⟩ := EStateM.Result.error.inj (hfirst.symm.trans hu)
      exact hends ⟨_, hboth⟩
  · rintro (⟨x, t, ⟨n, hfirst, hn⟩, m, hsecond, hm⟩ | ⟨e, t, ⟨n, hfirst, hn⟩, rfl⟩)
    · have hfirst := (ha.run_of_le (Nat.le_max_left n m) hn).trans hfirst
      have hsame := (hf x).run_of_le (Nat.le_max_right n m) hm
      have hboth : ((a (.ofDepth (max n m))) >>= fun x => f x (.ofDepth (max n m))).run s =
          (f x (.ofDepth m)).run t := by
        rw [EStateM.run_bind, hfirst]
        exact hsame
      refine ⟨max n m, hboth.trans hsecond, ?_⟩
      rintro ⟨u, hu⟩
      exact hm ⟨u, hboth.symm.trans hu⟩
    · have hboth : ((a (.ofDepth n)) >>= fun x => f x (.ofDepth n)).run s = .error e t := by
        rw [EStateM.run_bind, hfirst]
      refine ⟨n, hboth, ?_⟩
      rintro ⟨u, hu⟩
      obtain ⟨rfl, rfl⟩ := EStateM.Result.error.inj (hboth.symm.trans hu)
      exact hn ⟨_, hfirst⟩

/-- Scripts in a row come to the same as others that do so one by one. -/
theorem finishes_bind_congr (ha : Deepens a) (hb : Deepens b) (hf : ∀ x, Deepens (f x))
    (hk : ∀ x, Deepens (k x)) (hab : ∀ s r, Finishes a s r ↔ Finishes b s r)
    (hfk : ∀ x s r, Finishes (f x) s r ↔ Finishes (k x) s r)
    {r : EStateM.Result Failure State β} :
    Finishes (fun h => a h >>= fun x => f x h) s r ↔
      Finishes (fun h => b h >>= fun x => k x h) s r := by
  rw [finishes_bind_iff ha hf, finishes_bind_iff hb hk]
  simp only [hab, hfk]

end

end Stencil
