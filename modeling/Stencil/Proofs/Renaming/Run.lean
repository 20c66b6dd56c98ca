import Stencil.Proofs.Renaming.Correspondence

/-!
# Runs under a renaming

No operation depends on identities, so each follows itself from corresponding states, and so does
every expression. A host of greater depth follows one of smaller depth as far as the smaller one
does not give up (`Host.ofDepth_follows`); a host follows itself under every correspondence
(`Host.Uniform`).
-/

namespace Stencil

/-- An entry with new identities in its element. -/
def Entry.rename (ρ : Renaming) (entry : Entry) : Entry :=
  { entry with item := entry.item.rename ρ }

/-- A shape passes on whatever it is given. -/
theorem Shape.arguments_map {α β : Type} (f : α → β) (shape : Shape) (context index name data : α) :
    (shape.arguments context index name data).map f =
      shape.arguments (f context) (f index) (f name) (f data) := by
  cases shape <;> rfl

section

variable {κ : Correspondence} {h h' : Host} (hh : h.Follows κ h')
include hh

/-- A renamed function is called with renamed arguments, or refuses their number with the same
words. -/
theorem Closure.call_follows (f : Closure) (arguments : List Value) :
    (f.call h arguments).Follows κ (Value.rename κ)
      ((f.rename κ).call h' (arguments.map (Value.rename κ))) := by
  have herror : (f.rename κ).bindError? h' (arguments.map (Value.rename κ)).length =
      f.bindError? h arguments.length := by
    rw [bindError?, bindError?, signature_rename, List.length_map, hh.refuses?]
  unfold Closure.call
  rw [herror]
  cases f.bindError? h arguments.length with
  | some cause => exact .throw _ (.unbound cause)
  | none => exact hh.run f arguments

/-- So is any callable, and what cannot be called is refused under its new name. -/
theorem Value.call_follows (v : Value) (arguments : List Value) :
    (v.call h arguments).Follows κ (Value.rename κ)
      ((v.rename κ).call h' (arguments.map (Value.rename κ))) := by
  cases v with
  | function f => exact f.call_follows hh arguments
  | applied id f bound =>
    have hcall := f.call_follows hh (bound ++ arguments)
    rw [List.map_append, ← renameAll_eq κ bound] at hcall
    exact hcall
  | _ => exact .throw _ (.notCallable _)

/-- What a renamed leaf, condition or selector comes to is renamed. -/
theorem Value.resolve_follows (v : Value) (arguments : List Value) :
    (v.resolve h arguments).Follows κ (Value.rename κ)
      ((v.rename κ).resolve h' (arguments.map (Value.rename κ))) := by
  unfold Value.resolve
  rw [isCallable_rename]
  split
  · exact v.call_follows hh arguments
  · exact .pure _ v

namespace Context

/-- A renamed leaf gives the same text. -/
theorem renderLeaf_follows (c : Context) (leaf : Value) :
    (c.renderLeaf h leaf).Follows κ (fun text => text)
      ((c.rename κ).renderLeaf h' (leaf.rename κ)) := by
  have hresolve := leaf.resolve_follows hh [.context c, c.data]
  rw [renderLeaf, renderLeaf, data_rename]
  refine hresolve.bind fun result => ?_
  cases result with
  | null => exact .pure _ ""
  | str s => exact .pure _ s
  | _ => exact .throw _ (.notText leaf _)

/-- So do several leaves. -/
theorem renderLeaves_follows (c : Context) (leaves : List Value) :
    (c.renderLeaves h leaves).Follows κ (fun text => text)
      ((c.rename κ).renderLeaves h' (leaves.map (Value.rename κ))) := by
  match leaves with
  | [] => exact .pure _ ""
  | [leaf] => exact c.renderLeaf_follows hh leaf
  | first :: second :: leaves =>
    have hall := Action.Follows.mapM (c.renderLeaf_follows hh) (first :: second :: leaves)
    refine hall.iterated.bind fun texts => ?_
    rw [List.map_id']
    exact .pure _ (String.join texts)

/-- So do templates, since they have renamed leaves. -/
theorem render_follows (c : Context) (templates : List Value) :
    (c.render h templates).Follows κ (fun text => text)
      ((c.rename κ).render h' (templates.map (Value.rename κ))) := by
  rw [render, render, Template.flatten_eq_leaves, Template.flatten_eq_leaves,
    Template.leaves_rename]
  exact c.renderLeaves_follows hh _

/-- A renamed condition holds if the condition does. -/
theorem holds_follows (c : Context) (condition : Value) :
    (c.holds h condition).Follows κ (fun holds => holds)
      ((c.rename κ).holds h' (condition.rename κ)) := by
  have hresolve := condition.resolve_follows hh [.context c, c.data]
  rw [holds, holds, data_rename]
  refine hresolve.bind fun result => ?_
  rw [result.truthy_rename]
  exact .pure _ result.truthy

/-- Rendering on a condition follows, as its parts do. -/
theorem renderIf_follows (c : Context) (condition : Value) (templates : List Value) :
    (c.renderIf h condition templates).Follows κ (fun text => text)
      ((c.rename κ).renderIf h' (condition.rename κ) (templates.map (Value.rename κ))) := by
  refine (c.holds_follows hh condition).bind fun b => ?_
  cases b with
  | true => exact c.render_follows hh templates
  | false => exact .pure _ ""

/-- So does rendering one of two templates. -/
theorem renderIfElse_follows (c : Context) (condition yes no : Value) :
    (c.renderIfElse h condition yes no).Follows κ (fun text => text)
      ((c.rename κ).renderIfElse h' (condition.rename κ) (yes.rename κ) (no.rename κ)) := by
  refine (c.holds_follows hh condition).bind fun b => ?_
  cases b with
  | true => exact c.render_follows hh [yes]
  | false => exact c.render_follows hh [no]

/-- A step of a rebinding makes the renamed context. -/
theorem rebindOnce_follows (c : Context) (selector : Value) :
    (c.rebindOnce h selector).Follows κ (Context.rename κ)
      ((c.rename κ).rebindOnce h' (selector.rename κ)) := by
  have hresolve := selector.resolve_follows hh [c.data]
  rw [rebindOnce, rebindOnce, data_rename]
  refine hresolve.bind fun data => Action.Follows.freshId.bind fun id => ?_
  have hderive : (c.derive id data).rename κ = (c.rename κ).derive (κ.id id) (data.rename κ) :=
    new_rename κ id data (some c) (.int 0) (.str "0")
  rw [← hderive]
  exact .pure _ (c.derive id data)

/-- So does a rebinding, step by step. -/
theorem rebind_follows (c : Context) (selectors : List Value) :
    (c.rebind h selectors).Follows κ (Context.rename κ)
      ((c.rename κ).rebind h' (selectors.map (Value.rename κ))) :=
  Action.Follows.foldlM (fun c selector => c.rebindOnce_follows hh selector) c selectors

/-- The child contexts of corresponding visits correspond, and are the first that both make. -/
theorem visit_follows (c : Context) (callback : Value) (shape : Shape) (entry : Entry) :
    (c.visit h callback shape entry).Follows κ (Value.rename κ)
      ((c.rename κ).visit h' (callback.rename κ) shape (entry.rename κ)) := by
  refine Action.Follows.freshId.bind fun id => ?_
  have hchild : (c.child id entry).rename κ = (c.rename κ).child (κ.id id) (entry.rename κ) :=
    new_rename κ id entry.item (some c) (.int entry.index) (.str entry.name)
  have hcall := callback.call_follows hh (shape.arguments (.context (c.child id entry))
    (.int entry.index) (.str entry.name) entry.item)
  rw [Shape.arguments_map, Value.rename, hchild] at hcall
  exact hcall

end Context

end

/-- A test that does not depend on identities refuses the same result. -/
theorem firstRefused?_rename (ρ : Renaming) (accepts : Value → Bool)
    (haccepts : ∀ v : Value, accepts (v.rename ρ) = accepts v) (results : List Value) :
    firstRefused? accepts (results.map (Value.rename ρ)) =
      (firstRefused? accepts results).map fun r => (r.1.rename ρ, r.2) := by
  simp only [firstRefused?, List.zipIdx_map, List.find?_map, Function.comp_def, haccepts, Prod.map]
  rfl

/-- Renamed results are put together to the same text, or the same one is refused. -/
theorem joinResults_rename (ρ : Renaming) (separator : Value) (results : List Value) :
    joinResults (separator.rename ρ) (results.map (Value.rename ρ)) =
      renameOutcome ρ id (joinResults separator results) := by
  cases separator with
  | str s =>
    have htexts : ∀ v : Value, (v.rename ρ).toText?.isSome = v.toText?.isSome := fun v => by
      rw [v.toText?_rename]
    simp only [Value.rename, joinResults, firstRefused?_rename ρ (fun r => r.toText?.isSome) htexts]
    cases firstRefused? (fun r => r.toText?.isSome) results with
    | some r => rfl
    | none =>
      simp only [Option.map_none, List.filterMap_map, Function.comp_def, Value.toText?_rename,
        renameOutcome_ok, id]
  | bytes content =>
    simp only [Value.rename, joinResults,
      firstRefused?_rename ρ Value.isBytes fun v => v.isBytes_rename ρ]
    cases firstRefused? Value.isBytes results <;> rfl
  | _ => rfl

namespace JoinSpec

/-- The parts of a join with new identities. -/
def rename (ρ : Renaming) (spec : JoinSpec) : JoinSpec where
  separator := spec.separator.rename ρ
  callback := spec.callback.rename ρ
  opening := spec.opening.rename ρ
  closing := spec.closing.rename ρ
  shape := spec.shape.rename ρ

/-- The shape of a join is the same, given or read off the callback. -/
theorem resolveShape_rename (ρ : Renaming) (spec : JoinSpec) (mode : Mode) :
    (spec.rename ρ).resolveShape mode = spec.resolveShape mode := by
  simp only [resolveShape, rename, Value.isNull_rename, Value.detectShape_rename,
    Value.toShape_rename]

end JoinSpec

/-- One feed follows another when each of its entries does. -/
structure Feed.Follows (κ : Correspondence) (feed feed' : Feed) : Prop where
  /-- Both are exhausted after the same number of fetches. -/
  limit : feed'.limit = feed.limit
  /-- Each entry follows. -/
  fetch : ∀ i, (feed.fetch i).Follows κ (Option.map (Entry.rename κ)) (feed'.fetch i)

namespace Feed

variable {κ : Correspondence}

/-- Visits of corresponding entries that correspond keep corresponding results. -/
theorem collectFrom_follows {feed feed' : Feed} (hfeed : feed.Follows κ feed')
    {visit visit' : Entry → Action Value}
    (hvisit : ∀ entry, (visit entry).Follows κ (Value.rename κ) (visit' (entry.rename κ)))
    (rounds i : Nat) (kept : List Value) :
    (feed.collectFrom visit rounds i kept).Follows κ (List.map (Value.rename κ))
      (feed'.collectFrom visit' rounds i (kept.map (Value.rename κ))) := by
  induction rounds generalizing i kept with
  | zero =>
    rw [collectFrom, collectFrom, ← List.map_reverse]
    exact .pure _ kept.reverse
  | succ rounds ih =>
    refine (hfeed.fetch i).bind fun next? => ?_
    cases next? with
    | none =>
      rw [Option.map_none, ← List.map_reverse]
      exact .pure _ kept.reverse
    | some entry =>
      refine (hvisit entry).bind fun result => ?_
      have hkept : (if (result.rename κ).isNull then kept.map (Value.rename κ)
          else result.rename κ :: kept.map (Value.rename κ)) =
          (if result.isNull then kept else result :: kept).map (Value.rename κ) := by
        rw [result.isNull_rename]
        split <;> rfl
      rw [hkept]
      exact ih (i + 1) _

/-- The results of a feed that follows are the renamed ones. -/
theorem collect_follows {feed feed' : Feed} (hfeed : feed.Follows κ feed')
    {visit visit' : Entry → Action Value}
    (hvisit : ∀ entry, (visit entry).Follows κ (Value.rename κ) (visit' (entry.rename κ))) :
    (feed.collect visit).Follows κ (List.map (Value.rename κ)) (feed'.collect visit') := by
  rw [collect, collect, hfeed.limit]
  exact collectFrom_follows hfeed hvisit feed.limit 0 []

/-- The elements of a feed that follows are the renamed ones. -/
theorem drain_follows {feed feed' : Feed} (hfeed : feed.Follows κ feed') :
    feed.drain.Follows κ (List.map (Value.rename κ)) feed'.drain := by
  have hfrom : ∀ rounds i taken, (feed.drainFrom rounds i taken).Follows κ
      (List.map (Value.rename κ)) (feed'.drainFrom rounds i (taken.map (Value.rename κ))) := by
    intro rounds
    induction rounds with
    | zero =>
      intro i taken
      rw [drainFrom, drainFrom, ← List.map_reverse]
      exact .pure _ taken.reverse
    | succ rounds ih =>
      intro i taken
      refine (hfeed.fetch i).bind fun next? => ?_
      cases next? with
      | none =>
        rw [Option.map_none, ← List.map_reverse]
        exact .pure _ taken.reverse
      | some entry => exact ih (i + 1) (entry.item :: taken)
  rw [drain, drain, hfeed.limit]
  exact hfrom feed.limit 0 []

/-- Renamed elements that are at hand follow the elements. -/
theorem Follows.ofElements (items : List Value) :
    (Feed.ofElements items).Follows κ (Feed.ofElements (items.map (Value.rename κ))) where
  limit := by simp
  fetch i := by
    have hentry : (items[i]?.map (Value.rename κ)).map (Entry.positional i) =
        (items[i]?.map (Entry.positional i)).map (Entry.rename κ) := by
      cases items[i]? <;> rfl
    rw [fetch_ofElements, fetch_ofElements, List.getElem?_map, hentry]
    exact .pure _ _

/-- The entries of a renamed dictionary have the same labels. -/
theorem Follows.ofEntries (entries : Entries) :
    (Feed.ofEntries entries).Follows κ (Feed.ofEntries (entries.map (renameEntry κ))) where
  limit := by simp
  fetch i := by
    rw [fetch_ofEntries, fetch_ofEntries, List.getElem?_map]
    refine .ofExcept ?_
    cases entries[i]? with
    | none => rfl
    | some entry =>
      simp only [Option.map_some, Option.mapM_some, Entry.keyed, renameEntry_fst,
        entry.1.written_rename]
      cases entry.1.written <;> rfl

/-- Corresponding iterators give corresponding elements, under the same labels. -/
theorem Follows.ofIterator {h h' : Host} (hh : h.Follows κ h') (limit id : Nat) :
    (Feed.ofIterator h limit id).Follows κ (Feed.ofIterator h' limit (κ.place id)) where
  limit := rfl
  fetch i := by
    refine (Action.Follows.draw hh id).bind fun item => ?_
    have hentry : (item.map (Value.rename κ)).map (Entry.positional i) =
        (item.map (Entry.positional i)).map (Entry.rename κ) := by
      cases item <;> rfl
    rw [hentry]
    exact .pure _ _

section

variable {h h' : Host} (hh : h.Follows κ h') {α β : Type} {g : α → β} {f : Feed → Action α}
  {f' : Feed → Action β}
  (hf : ∀ feed feed', feed.Follows κ feed' → (f feed).Follows κ g (f' feed'))

include hh hf in
/-- What is walked over by position gives a feed that follows. -/
theorem sequence_bind_follows (items : Value) :
    (Feed.sequence h items >>= f).Follows κ g (Feed.sequence h' (items.rename κ) >>= f') := by
  have helements := items.elements?_rename κ
  cases he : items.elements? with
  | some elements =>
    rw [he] at helements
    rw [sequence_of_elements? h he, sequence_of_elements? h' helements, pure_bind, pure_bind]
    exact hf _ _ (.ofElements elements)
  | none =>
    cases items with
    | iterator id =>
      have hiterator : ∀ limit, (f (.ofIterator h limit id)).Follows κ g
          (f' (.ofIterator h' limit (κ.place id))) := fun limit =>
        hf _ _ (.ofIterator hh limit id)
      simp only [Value.rename, sequence, bind_assoc, pure_bind]
      refine .get_bind (fun s t hst => ?_) fun s => (hiterator (s.remaining id)).precedes s
      rw [hst.remaining id]
      exact hiterator (s.remaining id)
    | null | bool | int | function | applied | context | shape => exact .throw _ (.notIterable _)
    | _ => cases he

include hf in
/-- What is walked over by key gives a feed that follows. -/
theorem mapping_bind_follows (items : Value) :
    (Feed.mapping items >>= f).Follows κ g (Feed.mapping (items.rename κ) >>= f') := by
  cases items with
  | dict entries =>
    simp only [Value.rename, renameEntries_eq]
    exact hf _ _ (.ofEntries entries)
  | _ => exact .throw _ (.missingAttribute _ "items")

end

end Feed

section

variable {κ : Correspondence} {h h' : Host} (hh : h.Follows κ h')
include hh

namespace Context

/-- Opening, results and closing follow one by one. -/
theorem assemble_follows (c : Context) (spec : JoinSpec) (kept : List Value) :
    (c.assemble h spec kept).Follows κ (fun text => text)
      ((c.rename κ).assemble h' (spec.rename κ) (kept.map (Value.rename κ))) := by
  rw [assemble, assemble, List.isEmpty_map]
  split
  · exact .pure _ ""
  · refine (c.render_follows hh [spec.opening]).bind fun opening => ?_
    refine (Action.Follows.ofExcept (joinResults_rename κ spec.separator kept)).bind fun body => ?_
    refine (c.render_follows hh [spec.closing]).bind fun closing => ?_
    exact .pure _ (opening ++ body ++ closing)

/-- A join over a feed that follows gives the same text. -/
theorem joinFeed_follows (c : Context) (spec : JoinSpec) (mode : Mode) (feed feed' : Feed)
    (hfeed : feed.Follows κ feed') :
    (c.joinFeed h feed spec (spec.resolveShape mode)).Follows κ (fun text => text)
      ((c.rename κ).joinFeed h' feed' (spec.rename κ) ((spec.rename κ).resolveShape mode)) := by
  rw [spec.resolveShape_rename]
  refine (Feed.collect_follows hfeed fun entry => ?_).bind (c.assemble_follows hh spec)
  exact c.visit_follows hh spec.callback _ entry

/-- A join by position follows. -/
theorem joinSequence_follows (c : Context) (items : Value) (spec : JoinSpec) :
    (c.joinSequence h items spec).Follows κ (fun text => text)
      ((c.rename κ).joinSequence h' (items.rename κ) (spec.rename κ)) :=
  Feed.sequence_bind_follows hh (c.joinFeed_follows hh spec .sequence) items

/-- A join by key follows. -/
theorem joinMapping_follows (c : Context) (items : Value) (spec : JoinSpec) :
    (c.joinMapping h items spec).Follows κ (fun text => text)
      ((c.rename κ).joinMapping h' (items.rename κ) (spec.rename κ)) :=
  Feed.mapping_bind_follows (c.joinFeed_follows hh spec .mapping) items

/-- So does a join that is told its mode by renamed items. -/
theorem join_follows (c : Context) (items : Value) (spec : JoinSpec) :
    (c.join h items spec).Follows κ (fun text => text)
      ((c.rename κ).join h' (items.rename κ) (spec.rename κ)) := by
  cases items with
  | null => exact .pure _ ""
  | dict entries => exact c.joinMapping_follows hh _ spec
  | _ => exact c.joinSequence_follows hh _ spec

end Context

/-- Rendering against renamed data follows, under the new identity of the root. -/
theorem applyData_follows (data template : Value) (templates : List Value) :
    (applyData h data template templates).Follows κ (fun text => text)
      (applyData h' (data.rename κ) (template.rename κ) (templates.map (Value.rename κ))) := by
  refine Action.Follows.freshId.bind fun id => ?_
  have hroot : (Context.ofData id data).rename κ = Context.ofData (κ.id id) (data.rename κ) :=
    Context.new_rename κ id data none (.int 0) (.str "0")
  rw [← hroot]
  exact (Context.ofData id data).render_follows hh (template :: templates)

omit hh in
/-- A context that is made of renamed parts is the renamed one. -/
theorem makeContext_follows (data parent index name : Value) :
    (makeContext data parent index name).Follows κ (Value.rename κ)
      (makeContext (data.rename κ) (parent.rename κ) (index.rename κ) (name.rename κ)) := by
  refine Action.Follows.freshId.bind fun id => ?_
  rw [parent.toContext?_rename, ← Context.new_rename]
  exact .pure _ (Value.context _)

omit hh in
/-- So is a callable with renamed arguments bound for good. -/
theorem makeApplied_follows (callee : Value) (leading : List Value) :
    (makeApplied callee leading).Follows κ (Value.rename κ)
      (makeApplied (callee.rename κ) (leading.map (Value.rename κ))) := by
  refine Action.Follows.freshId.bind fun id => ?_
  rw [callee.bindLeading?_rename]
  cases callee.bindLeading? id leading with
  | some v => exact .pure _ v
  | none => exact .throw _ .notBindable

namespace Operation

/-- An operation with renamed operands follows it: those with effects one by one, all others since
they are computed from their operands. -/
theorem run_follows (operation : Operation) (operands : List Value) :
    (operation.run h operands).Follows κ (Value.rename κ)
      (operation.run h' (operands.map (Value.rename κ))) := by
  have hcompute : (Action.ofExcept (operation.compute operands)).Follows κ (Value.rename κ)
      (Action.ofExcept (operation.compute (operands.map (Value.rename κ)))) :=
    .ofExcept (operation.compute_rename κ operands)
  cases operation with
  | log =>
    match operands with
    | [v] =>
      refine (Action.Follows.ofExcept (v.written_rename κ)).bind fun entry => ?_
      exact (Action.Follows.writeLog entry).bind fun _ => .pure _ Value.null
    | [] | _ :: _ :: _ => exact hcompute
  | bind =>
    match operands with
    | [] => exact .throw _ .nothingToBind
    | callee :: leading => exact makeApplied_follows callee leading
  | newContext =>
    match operands with
    | [data] => exact makeContext_follows data .null (.int 0) (.str "0")
    | [data, parent] => exact makeContext_follows data parent (.int 0) (.str "0")
    | [data, parent, index] => exact makeContext_follows data parent index (.str "0")
    | [data, parent, index, name] => exact makeContext_follows data parent index name
    | [] | _ :: _ :: _ :: _ :: _ :: _ => exact hcompute
  | render =>
    match operands with
    | [] => exact hcompute
    | v :: templates =>
      cases v with
      | context c => exact (c.render_follows hh templates).map fun _ => rfl
      | _ => exact hcompute
  | renderIf =>
    match operands with
    | [] => exact hcompute
    | [v] => cases v <;> exact hcompute
    | v :: condition :: templates =>
      cases v with
      | context c => exact (c.renderIf_follows hh condition templates).map fun _ => rfl
      | _ => exact hcompute
  | renderIfElse =>
    match operands with
    | [] => exact hcompute
    | [v, condition, yes, no] =>
      cases v with
      | context c => exact (c.renderIfElse_follows hh condition yes no).map fun _ => rfl
      | _ => exact hcompute
    | [v] | [v, _] | [v, _, _] | v :: _ :: _ :: _ :: _ :: _ => cases v <;> exact hcompute
  | join | joinSequence | joinMapping =>
    match operands with
    | [] => exact hcompute
    | [v, items, separator, callback, opening, closing, shape] =>
      cases v with
      | context c =>
        let spec : JoinSpec := { separator, callback, opening, closing, shape }
        first
        | exact (c.join_follows hh items spec).map fun _ => rfl
        | exact (c.joinSequence_follows hh items spec).map fun _ => rfl
        | exact (c.joinMapping_follows hh items spec).map fun _ => rfl
      | _ => exact hcompute
    | [v] | [v, _] | [v, _, _] | [v, _, _, _] | [v, _, _, _, _] | [v, _, _, _, _, _]
    | v :: _ :: _ :: _ :: _ :: _ :: _ :: _ :: _ => cases v <;> exact hcompute
  | rebind =>
    match operands with
    | [] => exact hcompute
    | v :: selectors =>
      cases v with
      | context c => exact (c.rebind_follows hh selectors).map fun _ => rfl
      | _ => exact hcompute
  | applyData =>
    match operands with
    | [] | [_] => exact hcompute
    | data :: template :: templates =>
      exact (applyData_follows hh data template templates).map fun _ => rfl
  | invokeCallback =>
    match operands with
    | [callback, shape, context, index, name, data] =>
      have hcall := callback.call_follows hh (shape.toShape.arguments context index name data)
      rw [Shape.arguments_map] at hcall
      show (callback.call h _).Follows κ _ ((callback.rename κ).call h'
        ((shape.rename κ).toShape.arguments _ _ _ _))
      rw [shape.toShape_rename]
      exact hcall
    | [] | [_] | [_, _] | [_, _, _] | [_, _, _, _] | [_, _, _, _, _]
    | _ :: _ :: _ :: _ :: _ :: _ :: _ :: _ => exact hcompute
  | _ => exact hcompute

/-- So it does when its operands are looked over first. -/
theorem apply_follows (operation : Operation) (operands : List Value) :
    (operation.apply h operands).Follows κ (Value.rename κ)
      (operation.apply h' (operands.map (Value.rename κ))) := by
  rw [Operation.apply, Operation.apply, operation.fault?_rename]
  cases operation.fault? operands with
  | some e => exact .throw _ e
  | none => exact operation.run_follows hh operands

end Operation

/-- What a renamed value is spread to is the renamed operands. -/
theorem Value.spread_follows (v : Value) :
    (v.spread h).Follows κ (List.map (Value.rename κ)) ((v.rename κ).spread h') := by
  have hdrain : ∀ items : Value, (Feed.sequence h items >>= Feed.drain).Follows κ
      (List.map (Value.rename κ)) (Feed.sequence h' (items.rename κ) >>= Feed.drain) :=
    Feed.sequence_bind_follows hh fun _ _ hfeed => Feed.drain_follows hfeed
  cases v with
  | list items =>
    simp only [Value.rename, renameAll_eq, Value.spread]
    exact .pure _ items
  | tuple items =>
    simp only [Value.rename, renameAll_eq, Value.spread]
    exact .pure _ items
  | range p =>
    have hsize : (p.size >>= storable) = renameOutcome κ id (p.size >>= storable) := by
      conv => lhs; rw [Value.size_rename κ]
      exact renameOutcome_bind κ fun n => Value.storable_rename κ n
    have helements : (p.toList.map Value.int).map (Value.rename κ) = p.toList.map Value.int := by
      simp [Value.rename, Function.comp_def]
    have hpure : (pure (p.toList.map .int) : Action (List Value)).Follows κ
        (List.map (Value.rename κ)) (pure ((p.toList.map .int).map (Value.rename κ))) := .pure _ _
    rw [helements] at hpure
    exact (Action.Follows.ofExcept hsize).bind fun _ => hpure
  | _ => exact hdrain _

end

/-- An argument is found in the same place. -/
theorem argumentAt?_map (ρ : Renaming) (arguments : List Value) (index : Int) :
    argumentAt? (arguments.map (Value.rename ρ)) index =
      (argumentAt? arguments index).map (Value.rename ρ) := by
  cases index <;> simp [argumentAt?, ← List.map_reverse]

mutual

/-- An expression over renamed arguments follows it, by recursion on its structure. -/
theorem Expr.eval_follows {κ : Correspondence} {h h' : Host} (hh : h.Follows κ h')
    (scope : List (List Value)) : ∀ e : Expr, (e.eval h scope).Follows κ (Value.rename κ)
      (e.eval h' (scope.map (List.map (Value.rename κ))))
  | .null => by simp only [Expr.eval]; exact .pure _ Value.null
  | .bool b => by simp only [Expr.eval]; exact .pure _ (Value.bool b)
  | .int i => by simp only [Expr.eval]; exact .pure _ (Value.int i)
  | .str s => by simp only [Expr.eval]; exact .pure _ (Value.str s)
  | .argument index level => by
    have hfound : ((scope.map (List.map (Value.rename κ)))[level]?.bind fun arguments =>
        argumentAt? arguments index) =
        (scope[level]?.bind fun arguments => argumentAt? arguments index).map
          (Value.rename κ) := by
      rw [List.getElem?_map, Option.bind_map, Option.map_bind]
      exact congrArg _ (funext fun arguments => argumentAt?_map κ arguments index)
    simp only [Expr.eval, hfound]
    cases scope[level]?.bind fun arguments => argumentAt? arguments index with
    | some v => exact .pure _ v
    | none => exact .throw _ (.noArgument index)
  | .variable name => by
    simp only [Expr.eval]
    refine .get_bind (fun s t hst => ?_) fun s => ?_
    · rw [hst.valueOf? name]
      cases s.valueOf? name with
      | some v => exact .pure _ v
      | none => exact .throw _ (.unknownVariable name)
    · cases s.valueOf? name <;> exact .refl s
  | .function name signature body => by
    simp only [Expr.eval]
    cases signature.mapM Signature.declare with
    | error cause => exact .throw _ (.undeclarable cause)
    | ok signature =>
      refine Action.Follows.freshId.bind fun id => ?_
      rw [← renameScope_eq]
      exact .pure _ (Value.function ⟨id, name, signature, body, scope⟩)
  | .iterator elements => by
    simp only [Expr.eval]
    have hrename : (elements.map fun body => (⟨body, scope.map (List.map (Value.rename κ))⟩ :
        Suspended)) = (elements.map fun body => ⟨body, scope⟩).map (Suspended.rename κ) := by
      rw [List.map_map]
      rfl
    rw [hrename]
    exact .newIterator _
  | .dictionary entries => by
    simp only [Expr.eval]
    refine (evalEntries_follows hh scope entries []).map fun entries => ?_
    rw [Value.rename, renameEntries_eq]
  | .branch condition yes no => by
    simp only [Expr.eval]
    refine (Expr.eval_follows hh scope condition).bind fun v => ?_
    rw [v.truthy_rename]
    split
    · exact Expr.eval_follows hh scope yes
    · exact Expr.eval_follows hh scope no
  | .apply operation operands => by
    simp only [Expr.eval]
    exact (evalOperands_follows hh scope operands).bind (operation.apply_follows hh)

/-- An operand follows, spread or not. -/
theorem Operand.eval_follows {κ : Correspondence} {h h' : Host} (hh : h.Follows κ h')
    (scope : List (List Value)) : ∀ operand : Operand,
      (operand.eval h scope).Follows κ (List.map (Value.rename κ))
        (operand.eval h' (scope.map (List.map (Value.rename κ))))
  | .one e => by
    simp only [Operand.eval]
    exact (Expr.eval_follows hh scope e).bind fun v => .pure _ [v]
  | .spread e => by
    simp only [Operand.eval]
    exact (Expr.eval_follows hh scope e).bind fun v => v.spread_follows hh

/-- Operands follow from left to right. -/
theorem evalOperands_follows {κ : Correspondence} {h h' : Host} (hh : h.Follows κ h')
    (scope : List (List Value)) : ∀ operands : List Operand,
      (evalOperands h scope operands).Follows κ (List.map (Value.rename κ))
        (evalOperands h' (scope.map (List.map (Value.rename κ))) operands)
  | [] => by simp only [evalOperands]; exact .pure _ []
  | operand :: rest => by
    simp only [evalOperands]
    refine (Operand.eval_follows hh scope operand).bind fun values =>
      (evalOperands_follows hh scope rest).bind fun others => ?_
    rw [← List.map_append]
    exact .pure _ (values ++ others)

/-- The entries of a dictionary follow, each key before its value. -/
theorem evalEntries_follows {κ : Correspondence} {h h' : Host} (hh : h.Follows κ h')
    (scope : List (List Value)) : ∀ (written : List (Expr × Expr)) (entries : Entries),
      (evalEntries h scope written entries).Follows κ (List.map (renameEntry κ))
        (evalEntries h' (scope.map (List.map (Value.rename κ))) written
          (entries.map (renameEntry κ)))
  | [], entries => by simp only [evalEntries]; exact .pure _ entries
  | (k, v) :: rest, entries => by
    simp only [evalEntries]
    refine (Expr.eval_follows hh scope k).bind fun key =>
      (Expr.eval_follows hh scope v).bind fun value => ?_
    rw [key.unhashablePart?_rename, Entries.insert_rename]
    cases key.unhashablePart? with
    | some part => exact .throw _ (.unhashable part)
    | none => exact evalEntries_follows hh scope rest _

end

namespace Host

/-- A host that tells identities apart only by equality: it follows itself whatever the names. -/
def Uniform (h : Host) : Prop :=
  ∀ κ : Correspondence, h.Follows κ h

/-- Scripts of the same depth follow each other, and one that may nest its calls deeper follows one
that gives up earlier. -/
theorem ofDepth_follows (κ : Correspondence) {n m : Nat}
    (hnm : n = m ∨ κ.mayGiveUp ∧ n ≤ m) : (ofDepth n).Follows κ (ofDepth m) := by
  induction n generalizing m with
  | zero =>
    obtain rfl | ⟨hup, -⟩ := hnm
    · exact ⟨fun _ _ => .throw _ .tooDeep, fun _ => .throw _ .tooDeep, fun _ _ => rfl⟩
    · have hgiveUp : ∀ b : Action Value,
          (throw .tooDeep : Action Value).Follows κ (Value.rename κ) b := fun b =>
        ⟨fun s => .refl s, fun _ _ _ _ => .givenUp hup⟩
      cases m with
      | zero => exact ⟨fun _ _ => hgiveUp _, fun _ => hgiveUp _, fun _ _ => rfl⟩
      | succ m => exact ⟨fun _ _ => hgiveUp _, fun _ => hgiveUp _, fun _ _ => rfl⟩
  | succ n ih =>
    obtain ⟨m, rfl⟩ : ∃ k, m = k + 1 := ⟨m - 1, by omega⟩
    have hh : (ofDepth n).Follows κ (ofDepth m) :=
      ih (hnm.imp Nat.succ.inj fun h => ⟨h.1, Nat.le_of_succ_le_succ h.2⟩)
    constructor
    · intro f arguments
      have hbody := Expr.eval_follows hh (arguments :: f.scope) f.body
      show ((f.body).eval (ofDepth n) (arguments :: f.scope)).Follows κ (Value.rename κ)
        ((f.rename κ).body.eval (ofDepth m) (arguments.map (Value.rename κ) :: (f.rename κ).scope))
      rw [f.body_rename, f.scope_rename]
      exact hbody
    · exact fun e => Expr.eval_follows hh e.scope e.body
    · exact fun _ _ => rfl

/-- Scripts tell identities apart only by equality, however deep their calls may nest. -/
theorem ofDepth_uniform (depth : Nat) : (ofDepth depth).Uniform := fun κ =>
  ofDepth_follows κ (.inl rfl)

end Host

end Stencil
