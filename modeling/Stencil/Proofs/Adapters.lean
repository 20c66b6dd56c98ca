import Stencil.Proofs.Arity
import Stencil.Proofs.Depth
import Stencil.Proofs.Lockstep

/-!
# Adapting callbacks

A callback may be replaced by another one, of whatever shape, that does the same for each entry: the
joins by position and by key do not see the difference, nor does the one that is told its mode by
the items. What they walk over is a feed that does not depend on the callback (`JoinCall.Source`).
The case that matters is a function that takes all arguments and forwards those that the shape of
the callback selects, so that no shape has to be given.
-/

namespace Stencil

namespace JoinCall

/-- The ways to run a join with any parts: in its mode, or in the one that the items decide, if the
two are the same. -/
inductive Way (j : JoinCall) : (Host → JoinSpec → Action String) → Prop
  /-- The mode is given. -/
  | inMode : Way j fun h spec => (j.withSpec spec).run h
  /-- The mode is decided by the items. -/
  | byItems (hmode : j.mode = j.items.joinMode) :
      Way j fun h spec => j.context.join h j.items spec

/-- Where the entries of a join come from in a state: from a feed, whatever the other parts of the
join are. -/
structure Source (j : JoinCall) (join : Host → JoinSpec → Action String) (s : State) where
  /-- The feed. -/
  feed : Host → Feed
  /-- The number of fetches after which it is exhausted. -/
  limit : Nat
  /-- The join walks over the feed. -/
  run_eq : ∀ h spec,
    (join h spec).run s = ((j.withSpec spec).runFrom h (feed h) limit 0 []).run s
  /-- Asking for an entry advances the state. -/
  advances : ∀ h : Host, h.Lawful → (feed h).Advances
  /-- Unless names in the items change, the feed follows. -/
  follows : ∀ (κ : Correspondence) (h h' : Host), h.Follows κ h' →
    j.items.rename κ.toRenaming = j.items → (feed h).Follows κ (feed h')

section

variable {j : JoinCall} {join : Host → JoinSpec → Action String}

/-- The join in its mode has a source, or else refuses the items. -/
theorem inMode_decided_or_source (j : JoinCall) (s : State) :
    (∃ r, ∀ h spec, ((j.withSpec spec).run h).run s = r) ∨
      Nonempty (j.Source (fun h spec => (j.withSpec spec).run h) s) := by
  obtain ⟨c, items, mode, spec⟩ := j
  cases mode with
  | mapping =>
    cases items with
    | dict entries =>
      refine .inr ⟨⟨fun _ => .ofEntries entries, entries.length, fun _ _ => rfl,
        fun _ _ i => Feed.fetch_ofEntries entries i ▸ .ofExcept _, fun κ _ _ _ hitems => ?_⟩⟩
      have hentries : entries.map (renameEntry κ.toRenaming) = entries :=
        (renameEntries_eq κ.toRenaming entries).symm.trans (Value.dict.inj hitems)
      have hfollows := Feed.Follows.ofEntries (κ := κ) entries
      rwa [hentries] at hfollows
    | _ => exact .inl ⟨.error (.missingAttribute _ "items") s, fun _ _ => rfl⟩
  | sequence =>
    cases he : items.elements? with
    | some elements =>
      refine .inr ⟨⟨fun _ => .ofElements elements, elements.length, fun h spec => ?_,
        fun _ _ i => Feed.fetch_ofElements elements i ▸ .pure _, fun κ _ _ _ hitems => ?_⟩⟩
      · show (c.joinSequence h items spec).run s = _
        rw [Context.joinSequence, Feed.sequence_of_elements? h he, pure_bind]
        rfl
      · have helements := items.elements?_rename κ.toRenaming
        rw [hitems, he, Option.map_some, Option.some.injEq] at helements
        have hfollows := Feed.Follows.ofElements (κ := κ) elements
        rwa [← helements] at hfollows
    | none =>
      cases items with
      | iterator id =>
        refine .inr ⟨⟨fun h => .ofIterator h (s.remaining id) id, s.remaining id, fun _ _ => rfl,
          fun h hh i => (Action.Advances.draw hh id).bind fun item => .pure _,
          fun κ h h' hh hitems => ?_⟩⟩
        have hplace : κ.place id = id := Value.iterator.inj hitems
        have hfollows := Feed.Follows.ofIterator hh (s.remaining id) id
        rwa [hplace] at hfollows
      | null | bool | int | function | applied | context | shape =>
        exact .inl ⟨.error (.notIterable _) s, fun _ _ => rfl⟩
      | _ => cases he

/-- Whatever the way, a join has a source, or else its outcome does not depend on its parts. -/
theorem Way.decided_or_source (hway : j.Way join) (s : State) :
    (∃ r, ∀ h spec, (join h spec).run s = r) ∨ Nonempty (j.Source join s) := by
  cases hway with
  | inMode => exact j.inMode_decided_or_source s
  | byItems hmode =>
    cases hnull : j.items.isNull with
    | true =>
      refine .inl ⟨.ok "" s, fun h spec => ?_⟩
      have hitems : j.items = .null := by
        cases hi : j.items <;> simp_all [Value.isNull]
      rw [hitems]
      rfl
    | false =>
      have hjoin : (fun h spec => j.context.join h j.items spec) =
          fun h spec => (j.withSpec spec).run h := by
        funext h spec
        rw [Context.join_eq_run h j.context hnull, ← hmode]
        rfl
      rw [hjoin]
      exact j.inMode_decided_or_source s

end

end JoinCall

/-- A function that forwards its four arguments to the callback of a join, as far as the shape of
the callback selects them. -/
def JoinCall.forwarder (j : JoinCall) (id : Nat) (name : String)
    (signature : Option (List Parameter)) : Closure where
  id := id
  name := name
  signature := signature
  body := .apply .invokeCallback [.one (.argument 0 1), .one (.argument 1 1),
    .one (.argument 0 0), .one (.argument 1 0), .one (.argument 2 0), .one (.argument 3 0)]
  scope := [[j.spec.callback, .shape (j.spec.resolveShape j.mode)]]

namespace JoinCall

section

variable {j : JoinCall} {feed : Host → Feed} {s : State}

theorem callFor_deepens (j : JoinCall) (id : Nat) (entry : Entry) :
    Deepens fun h => j.callFor h id entry := by
  have hvalue : Value.rename .refl = fun v => v := funext Value.rename_refl
  refine .of_follows fun κ n m hκ hh => ?_
  have hcall := j.spec.callback.call_follows hh
    ((j.spec.resolveShape j.mode).arguments (.context (j.context.child id entry))
      (.int entry.index) (.str entry.name) entry.item)
  rw [hκ, map_rename_refl, hvalue] at hcall
  exact hcall

theorem assemble_deepens (j : JoinCall) (kept : List Value) :
    Deepens fun h => j.context.assemble h j.spec kept := by
  have hspec : j.spec.rename .refl = j.spec := by
    rw [JoinSpec.rename]
    simp only [Value.rename_refl]
  refine .of_follows fun κ n m hκ hh => ?_
  have hassemble := j.context.assemble_follows hh j.spec kept
  rw [hκ, j.context.rename_refl, hspec, map_rename_refl] at hassemble
  exact hassemble

theorem goOn_deepens {rounds i : Nat}
    (hrest : ∀ kept, Deepens fun h => j.runFrom h (feed h) rounds (i + 1) kept)
    (kept : List Value) (next? : Option Entry) :
    Deepens fun h => j.goOn h (feed h) rounds i kept next? := by
  cases next? with
  | none => exact j.assemble_deepens kept.reverse
  | some entry =>
    refine (Deepens.const Action.freshId).bind fun id => ?_
    exact (j.callFor_deepens id entry).bind fun result => hrest _

/-- A join comes to the same at all depths that suffice, if asking for its entries does. -/
theorem runFrom_deepens (hfetch : ∀ i, Deepens fun h => (feed h).fetch i) (rounds i : Nat)
    (kept : List Value) : Deepens fun h => j.runFrom h (feed h) rounds i kept := by
  induction rounds generalizing i kept with
  | zero => exact j.assemble_deepens kept.reverse
  | succ rounds ih =>
    simp only [runFrom_succ]
    exact (hfetch i).bind (goOn_deepens (ih (i + 1)) kept)

/-- Joins come to the same if the calls of their callbacks do. -/
theorem finishes_runFrom_withCallback_iff {callback shape : Value}
    (hfetch : ∀ i, Deepens fun h => (feed h).fetch i)
    (hcall : ∀ id entry s r,
      Finishes (fun h => (j.withCallback callback shape).callFor h id entry) s r ↔
        Finishes (fun h => j.callFor h id entry) s r)
    (rounds i : Nat) (kept : List Value) (s : State) (r : EStateM.Result Failure State String) :
    Finishes (fun h => (j.withCallback callback shape).runFrom h (feed h) rounds i kept) s r ↔
      Finishes (fun h => j.runFrom h (feed h) rounds i kept) s r := by
  induction rounds generalizing i kept s r with
  | zero => exact Iff.rfl
  | succ rounds ih =>
    have hrest := runFrom_deepens (j := j) hfetch rounds (i + 1)
    have hrest' := runFrom_deepens (j := j.withCallback callback shape) hfetch rounds (i + 1)
    simp only [runFrom_succ]
    refine finishes_bind_congr (hfetch i) (hfetch i) (goOn_deepens hrest' kept)
      (goOn_deepens hrest kept) (fun _ _ => Iff.rfl) fun next? s r => ?_
    cases next? with
    | none => exact Iff.rfl
    | some entry =>
      have hfresh := Deepens.const Action.freshId
      refine finishes_bind_congr hfresh hfresh (fun id => ?_) (fun id => ?_) (fun _ _ => Iff.rfl)
        fun id s r => ?_
      · exact (callFor_deepens _ id entry).bind fun result => hrest' _
      · exact (callFor_deepens _ id entry).bind fun result => hrest _
      · exact finishes_bind_congr (callFor_deepens _ id entry) (callFor_deepens _ id entry)
          (fun result => hrest' _) (fun result => hrest _) (hcall id entry)
          fun result s r => ih (i + 1) _ s r

theorem Source.fetch_deepens {join : Host → JoinSpec → Action String} (source : j.Source join s)
    (i : Nat) : Deepens fun h => (source.feed h).fetch i := by
  have hentry : Option.map (Entry.rename .refl) = fun next? => next? := by
    funext next?
    cases next? with
    | none => rfl
    | some entry => rw [Option.map_some, Entry.rename, Value.rename_refl]
  refine .of_follows fun κ n m hκ hh => ?_
  have hitems : j.items.rename κ.toRenaming = j.items := by rw [hκ, Value.rename_refl]
  have hfetch := (source.follows κ _ _ hh hitems).fetch i
  rw [hκ, hentry] at hfetch
  exact hfetch

end

section

variable {j : JoinCall} {id : Nat} {name : String} {signature : Option (List Parameter)}
  (haccepts : ∀ n, (Value.function (j.forwarder id name signature)).accepts (.ofDepth n) 4 = true)
  (harity : (Value.function (j.forwarder id name signature)).arity = .variadic ∨
    (Value.function (j.forwarder id name signature)).arity = .required 4)
include haccepts harity

/-- Where no shape is given, a join calls the forwarder with all four arguments. -/
theorem callFor_forwarder (n k : Nat) (entry : Entry) :
    (j.withCallback (.function (j.forwarder id name signature)) .null).callFor (.ofDepth n) k
        entry =
      (Host.ofDepth n).run (j.forwarder id name signature) [.context (j.context.child k entry),
        .int entry.index, .str entry.name, entry.item] := by
  have hshape : (Value.function (j.forwarder id name signature)).detectShape j.mode =
      .indexName := by
    rcases harity with harity | harity
    · rw [Value.detectShape, harity]
      cases j.mode <;> rfl
    · rw [Value.detectShape, harity]
      cases j.mode <;> rfl
  show (Value.function (j.forwarder id name signature)).callShaped (.ofDepth n)
    ((Value.function (j.forwarder id name signature)).detectShape j.mode) _ _ _ _ = _
  rw [hshape]
  exact Value.IsPartial.function.call_of_accepts _ (haccepts n)

/-- One call deeper, the forwarder does what the callback does. -/
theorem finishes_callFor_forwarder_iff (k : Nat) (entry : Entry) (s : State)
    (r : EStateM.Result Failure State Value) :
    Finishes (fun h => (j.withCallback (.function (j.forwarder id name signature)) .null).callFor
        h k entry) s r ↔
      Finishes (fun h => j.callFor h k entry) s r := by
  have hzero : (j.withCallback (.function (j.forwarder id name signature)) .null).callFor
      (.ofDepth 0) k entry = throw .tooDeep := callFor_forwarder haccepts harity _ k entry
  have hsucc : ∀ n, (j.withCallback (.function (j.forwarder id name signature)) .null).callFor
      (.ofDepth (n + 1)) k entry = j.callFor (.ofDepth n) k entry :=
    fun n => callFor_forwarder haccepts harity _ k entry
  constructor
  · refine Finishes.of_approximates fun n => ⟨n, ?_⟩
    cases n with
    | zero =>
      rw [hzero]
      exact .throw_tooDeep _
    | succ n =>
      rw [hsucc]
      exact j.callFor_deepens k entry n (n + 1) (Nat.le_succ n)
  · refine Finishes.of_approximates fun n => ⟨n + 1, ?_⟩
    rw [hsucc]
    exact .refl _

end

end JoinCall

/-- A callback may be replaced by another one, of whatever shape, that does the same when it is
called for an entry. If the calls are the same actions under some host, so are the joins, in their
mode as well as in the one that the items decide. If the calls are only seen to end alike, though
they may give out other identities and results that differ in these, then so do the joins; this is
for hosts that run scripts (`Host.ofDepth_lawful`, `Host.ofDepth_uniform`) and states that hold no
identity before it was given out, as those of sessions (`Session.Arises.knows`). If the calls come
to the same where calls may nest as deeply as it takes, so do the joins. In particular, a callback
may be replaced by a function of four arguments, or of any number, that forwards those which the
shape of the callback selects, and for which no shape is given. -/
theorem callbacks_may_be_adapted (j : JoinCall) {join : Host → JoinSpec → Action String}
    (hway : j.Way join) :
    (∀ (h : Host) (callback shape : Value),
      (∀ id entry, (j.withCallback callback shape).callFor h id entry = j.callFor h id entry) →
      join h (j.withCallback callback shape).spec = join h j.spec) ∧
    (∀ (h : Host) (callback shape : Value), h.Lawful → h.Uniform →
      (∀ (s : State) (id : Nat) (entry : Entry),
        s.Knows [.context (j.context.child id entry), entry.item, callback, j.spec.callback] →
        EndsAlike s.iterators.size
          ((Value.look <$> (j.withCallback callback shape).callFor h id entry).run s)
          ((Value.look <$> j.callFor h id entry).run s)) →
      ∀ s : State, s.Knows (callback :: j.items :: .context j.context :: j.spec.parts) →
        EndsAlike s.iterators.size ((join h (j.withCallback callback shape).spec).run s)
          ((join h j.spec).run s)) ∧
    (∀ callback shape : Value,
      (∀ id entry s r, Finishes (fun h => (j.withCallback callback shape).callFor h id entry) s r ↔
        Finishes (fun h => j.callFor h id entry) s r) →
      ∀ s r, Finishes (fun h => join h (j.withCallback callback shape).spec) s r ↔
        Finishes (fun h => join h j.spec) s r) ∧
    ∀ (id : Nat) (name : String) (signature : Option (List Parameter)),
      (∀ n, (Value.function (j.forwarder id name signature)).accepts (.ofDepth n) 4 = true) →
      (Value.function (j.forwarder id name signature)).arity = .variadic ∨
        (Value.function (j.forwarder id name signature)).arity = .required 4 →
      ∀ s r, Finishes (fun h =>
          join h (j.withCallback (.function (j.forwarder id name signature)) .null).spec) s r ↔
        Finishes (fun h => join h j.spec) s r := by
  have hdeep : ∀ callback shape : Value,
      (∀ id entry s r, Finishes (fun h => (j.withCallback callback shape).callFor h id entry) s r ↔
        Finishes (fun h => j.callFor h id entry) s r) →
      ∀ s r, Finishes (fun h => join h (j.withCallback callback shape).spec) s r ↔
        Finishes (fun h => join h j.spec) s r := by
    intro callback shape hcall s r
    rcases hway.decided_or_source s with ⟨ending, hjoin⟩ | ⟨⟨source⟩⟩
    · exact Finishes.congr (fun h => (hjoin h _).trans (hjoin h _).symm) r
    · rw [Finishes.congr (fun h => source.run_eq h (j.withCallback callback shape).spec) r,
        Finishes.congr (fun h => source.run_eq h j.spec) r]
      exact JoinCall.finishes_runFrom_withCallback_iff source.fetch_deepens hcall _ 0 [] s r
  refine ⟨fun h callback shape hcall => ?exact, fun h callback shape hlawful huniform hcall s hs =>
    ?seen, hdeep, fun id name signature haccepts harity => hdeep _ _
      (JoinCall.finishes_callFor_forwarder_iff haccepts harity)⟩
  case exact =>
    funext s
    rcases hway.decided_or_source s with ⟨ending, hjoin⟩ | ⟨⟨source⟩⟩
    · exact (hjoin h _).trans (hjoin h _).symm
    · have hsame := JoinCall.runFrom_withCallback_eq hcall
      show (join h (j.withCallback callback shape).spec).run s = (join h j.spec).run s
      rw [source.run_eq, source.run_eq]
      exact congrArg (fun goOn => (goOn (source.feed h) source.limit 0 []).run s) hsame
  case seen =>
    rcases hway.decided_or_source s with ⟨ending, hjoin⟩ | ⟨⟨source⟩⟩
    · rw [hjoin, hjoin]
      exact .refl _ ending
    · rw [source.run_eq, source.run_eq]
      have hitems := (hs.subset (by grind) : s.Knows [j.items]).values
      refine JoinCall.runFrom_withCallback_endsAlike hlawful huniform (source.advances h hlawful)
        hcall _ 0 [] (hs.subset (by grind)) fun κ hκ => ?_
      exact source.follows κ h h (huniform κ) (hitems κ.toRenaming hκ j.items (by simp))

/-- A callback that logs a mark and gives back the fourth argument. -/
def fourthArgument : Value :=
  .function ⟨0, "fourth", none, .apply .last [.one (.apply .log [.one (.str "leaf")]),
    .one (.argument 3 0)], []⟩

/-- The same, which leaves an identity behind. -/
def wastefulFourthArgument : Value :=
  .function ⟨0, "fourth", none, .apply .last [.one (.function "unused" none .null),
    .one (.apply .log [.one (.str "leaf")]), .one (.argument 3 0)], []⟩

/-- A join with a callback that gets no more than the context and the element. -/
def loggingJoin : JoinCall :=
  ⟨.ofData 0 .null, .list [.str "a", .str "b"], .sequence,
    ⟨.str ",", loggingLeaf, .str "<", .str ">", .null⟩⟩

/-- The callback may be replaced by one that finds the element behind the position and the label,
also where this one leaves an identity behind, and by a function of any number of arguments that
forwards two of them. -/
theorem callbacks_may_be_adapted_to_four_arguments :
    loggingJoin.context.join (.ofDepth 1) loggingJoin.items
        (loggingJoin.withCallback fourthArgument (.shape .indexName)).spec =
      loggingJoin.context.join (.ofDepth 1) loggingJoin.items loggingJoin.spec ∧
    EndsAlike 0
      ((loggingJoin.context.join (.ofDepth 1) loggingJoin.items
        (loggingJoin.withCallback wastefulFourthArgument (.shape .indexName)).spec).run
          ⟨#[], #[], 1, []⟩)
      ((loggingJoin.context.join (.ofDepth 1) loggingJoin.items loggingJoin.spec).run
        ⟨#[], #[], 1, []⟩) ∧
    Finishes (fun h => loggingJoin.context.join h loggingJoin.items
        (loggingJoin.withCallback (.function (loggingJoin.forwarder 1 "all"
          (some [⟨"arguments", .variadic, false⟩]))) .null).spec)
      ⟨#[], #[], 2, []⟩ (.ok "<a,b>" ⟨#["leaf", "leaf"], #[], 4, []⟩) := by
  obtain ⟨hexact, hseen, hdeep, hforwarder⟩ := callbacks_may_be_adapted loggingJoin (.byItems rfl)
  refine ⟨hexact _ _ _ fun _ _ => rfl, ?seen,
    (hforwarder 1 "all" _ (fun _ => rfl) (.inl rfl) _ _).mpr ?deep⟩
  case seen =>
    have hknows : (⟨#[], #[], 1, []⟩ : State).Knows (wastefulFourthArgument ::
        loggingJoin.items :: .context loggingJoin.context :: loggingJoin.spec.parts) := by
      refine .of_holds_nothing #[] 1 fun ρ hid => ?_
      simp [wastefulFourthArgument, loggingLeaf, loggingJoin, JoinSpec.parts, Value.rename,
        Closure.rename, Context.ofData, Context.new_rename, hid 0, renameAll]
    refine hseen (.ofDepth 1) _ (.shape .indexName) (Host.ofDepth_lawful 1)
      (Host.ofDepth_uniform 1) (fun s id entry _ => ?_) ⟨#[], #[], 1, []⟩ hknows
    exact .ok entry.item.look ⟨rfl, fun _ _ => rfl⟩
  case deep =>
    -- the shape that is read off the callback may as well be given
    refine (hdeep loggingLeaf (.shape .bare) (fun _ _ _ _ => Iff.rfl) _ _).mp ?_
    refine finishes_ok_iff.mpr ⟨1, ?_⟩
    simp only [loggingJoin, JoinCall.withCallback, JoinCall.withSpec, Context.join,
      Context.joinSequence, Context.joinFeed, Context.assemble, Context.render_eq_renderLeaves]
    rfl

end Stencil
