import Stencil.Proofs.Composition
import Stencil.Proofs.JoinRun

/-!
# Joins side by side

All that a join does with its callback is to call it for each entry, with the argument list of its
shape, and to look at what comes of it: a text or null counts as such, and of all else only the name
of its type is ever seen (`Value.look`). Joins that differ only in their callbacks walk side by side
as long as the calls are seen to end alike. This is plain where the calls leave the same state. But
callbacks may leave identities behind, and differ in this. Then both joins are first compared from
the state that the one callback left, and the join with the other callback is moved to the state
that this one left (`JoinCall.runFrom_endsAlike_of_results`).
-/

namespace Stencil

/-- What a join sees of a result: its text, if it is one, and the name of its type. -/
def Value.look (v : Value) : Option String × String :=
  (v.toText?, v.qualifiedTypeName)

/-- The values that a join is given besides its context and items. -/
def JoinSpec.parts (spec : JoinSpec) : List Value :=
  [spec.separator, spec.callback, spec.opening, spec.closing, spec.shape]

namespace JoinCall

/-- A join with other parts. -/
def withSpec (j : JoinCall) (spec : JoinSpec) : JoinCall :=
  { j with spec }

/-- A join with another callback, and with another choice of its shape. -/
def withCallback (j : JoinCall) (callback shape : Value) : JoinCall :=
  j.withSpec { j.spec with callback, shape }

/-- Calls the callback for an entry, with the arguments of its shape, in the child context of the
given identity. -/
def callFor (h : Host) (j : JoinCall) (id : Nat) (entry : Entry) : Action Value :=
  j.spec.callback.callShaped h (j.spec.resolveShape j.mode) (.context (j.context.child id entry))
    (.int entry.index) (.str entry.name) entry.item

/-- Goes on with a join over a feed, when some results were kept already. -/
def runFrom (h : Host) (j : JoinCall) (feed : Feed) (rounds i : Nat) (kept : List Value) :
    Action String :=
  feed.collectFrom (j.visit h) rounds i kept >>= j.context.assemble h j.spec

/-- Goes on with a join when it has asked for an entry: visits it, or puts the results together if
there is none. -/
def goOn (h : Host) (j : JoinCall) (feed : Feed) (rounds i : Nat) (kept : List Value) :
    Option Entry → Action String
  | none => j.context.assemble h j.spec kept.reverse
  | some entry => do
    let id ← Action.freshId
    let result ← j.callFor h id entry
    j.runFrom h feed rounds (i + 1) (if result.isNull then kept else result :: kept)

section

variable {h : Host} {j : JoinCall}

/-- A visit is a call in a child context that is made for it. -/
theorem visit_eq_bind (entry : Entry) :
    j.visit h entry = Action.freshId >>= fun id => j.callFor h id entry := rfl

/-- One round asks for an entry and goes on with it. -/
theorem runFrom_succ (feed : Feed) (rounds i : Nat) (kept : List Value) :
    j.runFrom h feed (rounds + 1) i kept = feed.fetch i >>= j.goOn h feed rounds i kept := by
  rw [runFrom, Feed.collectFrom, bind_assoc]
  refine bind_congr fun next? => ?_
  cases next? with
  | none =>
    rw [pure_bind]
    rfl
  | some entry =>
    rw [bind_assoc, visit_eq_bind, bind_assoc]
    rfl

/-- Joins that differ in their callbacks only go on alike, if their calls are the same. -/
theorem runFrom_withCallback_eq {callback shape : Value}
    (hcall : ∀ id entry, (j.withCallback callback shape).callFor h id entry =
      j.callFor h id entry) :
    (j.withCallback callback shape).runFrom h = j.runFrom h := by
  have hvisit : (j.withCallback callback shape).visit h = j.visit h :=
    funext fun entry => bind_congr fun id => hcall id entry
  funext feed rounds i kept
  rw [runFrom, hvisit]
  rfl

end

end JoinCall

section

variable {results others : List Value}

theorem Value.isNull_eq_of_look {v w : Value} (hlook : v.look = w.look) : v.isNull = w.isNull := by
  have hnull : ∀ u : Value, u.isNull = (u.qualifiedTypeName == "NoneType") := by
    intro u
    cases u <;> rfl
  have htype : v.qualifiedTypeName = w.qualifiedTypeName := congrArg Prod.snd hlook
  rw [hnull, hnull, htype]

/-- Which result a test refuses is seen, if the test looks no further. -/
theorem firstRefused?_map_look (accepts : Value → Bool) (sees : Option String × String → Bool)
    (haccepts : ∀ v : Value, accepts v = sees v.look) (results : List Value) :
    (firstRefused? accepts results).map (fun r => (r.1.look, r.2)) =
      (results.map Value.look).zipIdx.find? fun r => !sees r.1 := by
  simp only [firstRefused?, List.zipIdx_map, List.find?_map, Function.comp_def, haccepts, Prod.map]
  rfl

/-- Results that look the same are refused alike: none of them is, or the ones in one place are, and
these are of the same type. -/
theorem firstRefused?_of_look (accepts : Value → Bool) (sees : Option String × String → Bool)
    (haccepts : ∀ v : Value, accepts v = sees v.look)
    (hlook : results.map Value.look = others.map Value.look) :
    (firstRefused? accepts results = none ∧ firstRefused? accepts others = none) ∨
      ∃ v w i, firstRefused? accepts results = some (v, i) ∧
        firstRefused? accepts others = some (w, i) ∧
        v.qualifiedTypeName = w.qualifiedTypeName := by
  have hsame := firstRefused?_map_look accepts sees haccepts results
  rw [hlook, ← firstRefused?_map_look accepts sees haccepts others] at hsame
  cases hresults : firstRefused? accepts results with
  | none =>
    rw [hresults, Option.map_none, eq_comm, Option.map_eq_none_iff] at hsame
    exact .inl ⟨rfl, hsame⟩
  | some r =>
    rw [hresults, Option.map_some, eq_comm, Option.map_eq_some_iff] at hsame
    obtain ⟨⟨w, i⟩, hothers, hlooks⟩ := hsame
    obtain ⟨hlooks, rfl⟩ := Prod.mk.inj hlooks
    exact .inr ⟨r.1, w, r.2, rfl, hothers, (congrArg Prod.snd hlooks).symm⟩

/-- Results that look the same are joined to the same text, or refused with the same report. -/
theorem mapError_report_joinResults (hlook : results.map Value.look = others.map Value.look)
    (separator : Value) :
    (joinResults separator results).mapError Failure.report =
      (joinResults separator others).mapError Failure.report := by
  cases separator with
  | str text =>
    have htexts : ∀ vs : List Value, vs.filterMap Value.toText? =
        (vs.map Value.look).filterMap Prod.fst := by
      intro vs
      rw [List.filterMap_map]
      rfl
    have haccepts : ∀ v : Value, v.toText?.isSome = v.look.1.isSome := fun _ => rfl
    simp only [joinResults, htexts, hlook]
    rcases firstRefused?_of_look _ (fun l => l.1.isSome) haccepts hlook with
      ⟨hresults, hothers⟩ | ⟨v, w, i, hresults, hothers, htype⟩
    · rw [hresults, hothers]
    · rw [hresults, hothers]
      have hreport : ∀ u : Value, (Failure.notJoinableText i u).report =
          ("TypeError", "sequence item " ++ toString i ++ ": expected str instance, " ++
            u.qualifiedTypeName ++ " found") := fun _ => rfl
      show Except.error (Failure.notJoinableText i v).report =
        Except.error (Failure.notJoinableText i w).report
      rw [hreport, hreport, htype]
  | bytes content =>
    have haccepts : ∀ v : Value, v.isBytes = (v.look.2 == "bytes") := by
      intro v
      cases v <;> rfl
    simp only [joinResults]
    rcases firstRefused?_of_look _ (fun l => l.2 == "bytes") haccepts hlook with
      ⟨hresults, hothers⟩ | ⟨v, w, i, hresults, hothers, htype⟩
    · rw [hresults, hothers]
    · rw [hresults, hothers]
      have hreport : ∀ u : Value, (Failure.notJoinableBytes i u).report =
          ("TypeError", "sequence item " ++ toString i ++ ": expected a bytes-like object, " ++
            u.qualifiedTypeName ++ " found") := fun _ => rfl
      show Except.error (Failure.notJoinableBytes i v).report =
        Except.error (Failure.notJoinableBytes i w).report
      rw [hreport, hreport, htype]
  | _ => rfl

end

section

variable {j : JoinCall} {h : Host} {feed : Feed} {s t u : State} {vs : List Value}

/-- What a join with other kept results comes to is not told apart, if the results look the same. -/
theorem Context.assemble_endsAlike {c : Context} {spec : JoinSpec} {kept others : List Value}
    (hlook : kept.map Value.look = others.map Value.look) (n : Nat) (s : State) :
    EndsAlike n ((c.assemble h spec kept).run s) ((c.assemble h spec others).run s) := by
  have hempty : kept.isEmpty = others.isEmpty := by
    rw [← List.isEmpty_map, hlook, List.isEmpty_map]
  have hjoined := mapError_report_joinResults hlook spec.separator
  rw [assemble, assemble, hempty]
  split
  · exact .refl n _
  · refine .bind_left fun opening u _ => ?_
    cases hkept : joinResults spec.separator kept with
    | ok body =>
      cases hothers : joinResults spec.separator others with
      | ok other =>
        rw [hkept, hothers] at hjoined
        obtain rfl : body = other := Except.ok.inj hjoined
        exact .refl n _
      | error f =>
        rw [hkept, hothers] at hjoined
        cases hjoined
    | error e =>
      cases hothers : joinResults spec.separator others with
      | ok other =>
        rw [hkept, hothers] at hjoined
        cases hjoined
      | error f =>
        rw [hkept, hothers] at hjoined
        have hreport : e.report = f.report := Except.error.inj hjoined
        exact .error hreport (.refl n u)

namespace JoinCall

theorem runFrom_endsAlike_of_look {kept others : List Value}
    (hlook : kept.map Value.look = others.map Value.look) (rounds i n : Nat) (s : State) :
    EndsAlike n ((j.runFrom h feed rounds i kept).run s)
      ((j.runFrom h feed rounds i others).run s) := by
  have hreverse : ∀ {kept others : List Value}, kept.map Value.look = others.map Value.look →
      kept.reverse.map Value.look = others.reverse.map Value.look := by
    intro kept others hlook
    rw [List.map_reverse, List.map_reverse, hlook]
  induction rounds generalizing i kept others s with
  | zero => exact Context.assemble_endsAlike (hreverse hlook) n s
  | succ rounds ih =>
    rw [runFrom_succ, runFrom_succ]
    refine .bind_left fun next? t _ => ?_
    cases next? with
    | none => exact Context.assemble_endsAlike (hreverse hlook) n t
    | some entry =>
      refine .bind_left fun id u _ => .bind_left fun result v _ => ih ?_ (i + 1) v
      split
      · exact hlook
      · rw [List.map_cons, List.map_cons, hlook]

/-- All that a state has to know of a join, for it to mention nothing else: the context, the parts,
and what is walked over. -/
structure KnownTo (j : JoinCall) (feed : Feed) (s : State) : Prop where
  /-- The values are known. -/
  values : s.Knows (.context j.context :: j.spec.parts)
  /-- The feed is known. -/
  follows : ∀ κ : Correspondence, κ.toRenaming.Keeps s → feed.Follows κ feed

/-- Under names that keep what is known of a join, it goes on like itself, with the results that it
kept renamed. -/
theorem runFrom_follows (huniform : h.Uniform) (hs : j.KnownTo feed s) {κ : Correspondence}
    (hκ : κ.toRenaming.Keeps s) (rounds i : Nat) (kept : List Value) :
    (j.runFrom h feed rounds i kept).Follows κ (fun text => text)
      (j.runFrom h feed rounds i (kept.map (Value.rename κ.toRenaming))) := by
  have hcontext : j.context.rename κ.toRenaming = j.context := hs.values.context_rename hκ
  have hspec : j.spec.rename κ.toRenaming = j.spec := by
    have hparts := (hs.values.subset fun _ => List.mem_cons_of_mem _).map_rename hκ
    simp only [JoinSpec.parts, List.map_cons, List.map_nil, List.cons.injEq, and_true] at hparts
    obtain ⟨hseparator, hcallback, hopening, hclosing, hshape⟩ := hparts
    rw [JoinSpec.rename, hseparator, hcallback, hopening, hclosing, hshape]
  have hcallback : j.spec.callback.rename κ.toRenaming = j.spec.callback :=
    congrArg JoinSpec.callback hspec
  have hvisit : ∀ entry, (j.visit h entry).Follows κ (Value.rename κ.toRenaming)
      (j.visit h (entry.rename κ.toRenaming)) := by
    intro entry
    have hentry := j.context.visit_follows (huniform κ) j.spec.callback
      (j.spec.resolveShape j.mode) entry
    rw [hcontext, hcallback] at hentry
    exact hentry
  have hcollect := Feed.collectFrom_follows (hs.follows κ hκ) hvisit rounds i kept
  refine hcollect.bind fun kept => ?_
  have hassemble := j.context.assemble_follows (huniform κ) j.spec kept
  rw [hcontext, hspec] at hassemble
  exact hassemble

theorem runFrom_advances (hlawful : h.Lawful) (hfeed : feed.Advances) (rounds i : Nat)
    (kept : List Value) : (j.runFrom h feed rounds i kept).Advances := by
  have hvisit : ∀ entry, (j.visit h entry).Advances := fun entry =>
    j.context.visit_advances hlawful j.spec.callback (j.spec.resolveShape j.mode) entry
  exact (Feed.collectFrom_advances hfeed hvisit rounds i kept).bind fun kept =>
    j.context.assemble_advances hlawful j.spec kept

/-- From later states that are alike in what was given out before, a join that is known goes on
alike, whatever was kept. -/
theorem runFrom_endsAlike_of_alike (hlawful : h.Lawful) (huniform : h.Uniform)
    (hfeed : feed.Advances) (hs : j.KnownTo feed s) (ht : s.Before t) (hu : s.Before u)
    (htu : t.Alike s.iterators.size u) (rounds i : Nat) (kept : List Value) :
    EndsAlike s.iterators.size ((j.runFrom h feed rounds i kept).run t)
      ((j.runFrom h feed rounds i kept).run u) := by
  have hforget : ∀ v : State, s.Before v →
      EndsAlike s.iterators.size ((j.runFrom h feed rounds i kept).run (s.forget v))
        ((j.runFrom h feed rounds i kept).run v) := by
    intro v hv
    have hmoved := Action.endsAlike_forget
      (b := fun ρ => j.runFrom h feed rounds i (kept.map (Value.rename ρ)))
      (fun κ hκ => runFrom_follows huniform hs hκ rounds i kept)
      (runFrom_advances hlawful hfeed rounds i kept) hs.values hv
    -- renamed results still look the same
    refine hmoved.trans (runFrom_endsAlike_of_look ?_ rounds i _ v)
    simp [Value.look, Function.comp_def]
  have ht' := hforget t ht
  rw [State.forget_eq_forget ht.precedes hu.precedes htu] at ht'
  exact ht'.symm.trans (hforget u hu)

/-- The call for an entry mentions the child context, the entry and the callback. -/
theorem callFor_mentions (huniform : h.Uniform) {id : Nat} {entry : Entry}
    (hs : s.Knows [.context (j.context.child id entry), entry.item, j.spec.callback]) :
    (j.callFor h id entry).Mentions Value.rename s := by
  intro κ hκ
  have hfixed := hs.values κ.toRenaming hκ
  have hchild := hfixed (.context (j.context.child id entry)) (by simp)
  have hitem := hfixed entry.item (by simp)
  have hcallback := hfixed j.spec.callback (by simp)
  have hcall := j.spec.callback.call_follows (huniform κ)
    ((j.spec.resolveShape j.mode).arguments (.context (j.context.child id entry))
      (.int entry.index) (.str entry.name) entry.item)
  rw [Shape.arguments_map, hchild, hitem, hcallback] at hcall
  exact hcall

/-- What is known when a child context was made: what was known before, and this context. -/
theorem knows_child {c : Context} {entry : Entry} (hs : s.Knows (entry.item :: .context c :: vs)) :
    ({ s with nextId := s.nextId + 1 } : State).Knows
      (.context (c.child s.nextId entry) :: entry.item :: .context c :: vs) := by
  refine hs.succ.cons fun ρ hρ => ?_
  have hitem := hs.succ.values ρ hρ entry.item List.mem_cons_self
  have hcontext := (hs.succ.subset fun _ => List.mem_cons_of_mem _).context_rename hρ
  have hid : ρ.id s.nextId = s.nextId := hρ.id _ (Nat.lt_succ_self _)
  have hchild := Context.new_rename ρ s.nextId entry.item (some c) (.int entry.index)
    (.str entry.name)
  rw [hid, hitem, Option.map_some, hcontext] at hchild
  exact congrArg Value.context hchild

/-- Where calls gave results that look the same and left states that are alike, what ends like the
join that keeps the first result, from the first of the states, ends like the join that keeps the
second one, from the second. -/
theorem runFrom_endsAlike_of_results (hlawful : h.Lawful) (huniform : h.Uniform)
    (hfeed : feed.Advances) (hs : j.KnownTo feed s) (ht : s.Before t) (hu : s.Before u)
    (htu : t.Alike s.iterators.size u) {x y : Value} (hlook : x.look = y.look) {rounds i : Nat}
    {kept : List Value} {r : EStateM.Result Failure State String}
    (hr : EndsAlike t.iterators.size r
      ((j.runFrom h feed rounds i (if x.isNull then kept else x :: kept)).run t)) :
    EndsAlike s.iterators.size r
      ((j.runFrom h feed rounds i (if y.isNull then kept else y :: kept)).run u) := by
  have hkeep : (if x.isNull then kept else x :: kept).map Value.look =
      (if y.isNull then kept else y :: kept).map Value.look := by
    rw [Value.isNull_eq_of_look hlook]
    split
    · rfl
    · rw [List.map_cons, List.map_cons, hlook]
  have hsame := hr.trans (runFrom_endsAlike_of_look hkeep rounds i _ t)
  exact (hsame.of_le ht.precedes.size).trans
    (runFrom_endsAlike_of_alike hlawful huniform hfeed hs ht hu htu rounds i _)

section

variable {callback shape : Value} (hlawful : h.Lawful) (huniform : h.Uniform)
  (hfeed : feed.Advances)
  (hcall : ∀ (s : State) (id : Nat) (entry : Entry),
    s.Knows [.context (j.context.child id entry), entry.item, callback, j.spec.callback] →
    EndsAlike s.iterators.size
      ((Value.look <$> (j.withCallback callback shape).callFor h id entry).run s)
      ((Value.look <$> j.callFor h id entry).run s))
include hlawful huniform hfeed hcall

/-- Another callback goes on alike with an entry, if it goes on alike behind the call for it. -/
theorem goOn_withCallback_endsAlike {rounds i : Nat} {kept : List Value} {entry : Entry}
    (hs : s.Knows (entry.item :: .context j.context :: callback :: j.spec.parts))
    (hfollows : ∀ κ : Correspondence, κ.toRenaming.Keeps s → feed.Follows κ feed)
    (hrest : ∀ (t : State) (kept : List Value), s.Before t →
      t.Knows (callback :: .context j.context :: j.spec.parts) →
      EndsAlike t.iterators.size
        (((j.withCallback callback shape).runFrom h feed rounds (i + 1) kept).run t)
        ((j.runFrom h feed rounds (i + 1) kept).run t)) :
    EndsAlike s.iterators.size
      (((j.withCallback callback shape).goOn h feed rounds i kept (some entry)).run s)
      ((j.goOn h feed rounds i kept (some entry)).run s) := by
  have hchild := knows_child hs
  have hknown : j.KnownTo feed { s with nextId := s.nextId + 1 } :=
    ⟨hchild.subset (by grind),
      fun κ hκ => hfollows κ (hκ.of_precedes s.before_succ.precedes)⟩
  refine .bind_left fun id t hid => ?_
  obtain ⟨rfl, rfl⟩ := Action.run_freshId_eq_ok_iff.mp hid
  have hcalls := hcall { s with nextId := s.nextId + 1 } s.nextId entry
    (hchild.subset (by simp [JoinSpec.parts]))
  refine hcalls.bind_of_map fun x y t u ht hu hlook htu => ?_
  have hcalled : (j.callFor h s.nextId entry).Mentions Value.rename
      { s with nextId := s.nextId + 1 } :=
    callFor_mentions huniform (hchild.subset (by simp [JoinSpec.parts]))
  have hreplaced : ((j.withCallback callback shape).callFor h s.nextId entry).Mentions
      Value.rename { s with nextId := s.nextId + 1 } :=
    callFor_mentions huniform (hchild.subset (by simp [withCallback, withSpec]))
  have hbefore := hreplaced.before_of_ok (callback.call_advances hlawful _) ht
  have hbefore' := hcalled.before_of_ok (j.spec.callback.call_advances hlawful _) hu
  have hknows := (hreplaced.knows_of_ok hchild ht).1
  exact runFrom_endsAlike_of_results hlawful huniform hfeed hknown hbefore hbefore' htu hlook
    (hrest t _ (s.before_succ.trans hbefore) (hknows.subset (by grind)))

/-- Another callback, of another shape, goes on alike with the same results kept, if for each entry
its call is seen to end like that of the first one. -/
theorem runFrom_withCallback_endsAlike (rounds i : Nat) (kept : List Value)
    (hs : s.Knows (callback :: .context j.context :: j.spec.parts))
    (hfollows : ∀ κ : Correspondence, κ.toRenaming.Keeps s → feed.Follows κ feed) :
    EndsAlike s.iterators.size
      (((j.withCallback callback shape).runFrom h feed rounds i kept).run s)
      ((j.runFrom h feed rounds i kept).run s) := by
  induction rounds generalizing i kept s with
  | zero => exact .refl _ _
  | succ rounds ih =>
    rw [runFrom_succ, runFrom_succ]
    refine .bind_left fun next? t hnext => ?_
    have hfetch : (feed.fetch i).Mentions (fun ρ => Option.map (Entry.rename ρ)) s :=
      fun κ hκ => (hfollows κ hκ).fetch i
    have hst := hfetch.before_of_ok (hfeed i) hnext
    obtain ⟨ht, hentry⟩ := hfetch.knows_of_ok hs hnext
    cases next? with
    | none => exact .refl _ _
    | some entry =>
      have hitem : ∀ ρ : Renaming, ρ.Keeps t → entry.item.rename ρ = entry.item :=
        fun ρ hρ => congrArg Entry.item (Option.some.inj (hentry ρ hρ))
      have hlater : ∀ {u : State}, s.Before u → ∀ κ : Correspondence,
          κ.toRenaming.Keeps u → feed.Follows κ feed :=
        fun hsu κ hκ => hfollows κ (hκ.of_precedes hsu.precedes)
      refine EndsAlike.of_le ?_ hst.precedes.size
      exact goOn_withCallback_endsAlike hlawful huniform hfeed hcall
        ((ht.cons hitem).subset (by grind)) (hlater hst) fun u kept htu hu =>
          ih (i + 1) kept hu (hlater (hst.trans htu))

end

end JoinCall

end

end Stencil
