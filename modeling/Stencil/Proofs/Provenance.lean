import Stencil.Proofs.JoinRun

/-!
# Where failures come from

An operation asks for two things that are not its own: that a leaf, condition, selector or callback
is called, and that a one-shot iterator gives an element. `Task.Requests` says in which state which
request is made, which needs all that comes before it to have succeeded. An operation fails with the
failure of such a request, in the state it left, so that nothing is evaluated past it; or it refuses
something itself, and `Task.Refuses` says what and where. The one refusal that is not of an
operation but of the text it needs is that of a key too long to be written as a label. Only one
failure of a request is not kept as it is: the sign that an iteration is at its end, where it comes
from one of several leaves.
-/

namespace Stencil

/-- What an operation asks of callables and iterators. -/
inductive Request where
  /-- That a condition, a selector or a callback is called. -/
  | call (callee : Value) (arguments : List Value)
  /-- That a leaf is called, one of so many that are rendered in a row. -/
  | leaf (callee : Value) (arguments : List Value) (count : Nat)
  /-- That a one-shot iterator gives its next element. -/
  | element (id : Nat)

namespace Request

/-- What comes of a request. -/
def answer (h : Host) : Request → Action (Option Value)
  | .call callee arguments | .leaf callee arguments _ => some <$> callee.call h arguments
  | .element id => Action.draw h id

/-- What an operation fails with, a request of which failed. -/
def failure : Request → Failure → Failure
  | .call _ _, cause | .element _, cause => cause
  | .leaf _ _ count, cause => cause.among count

end Request

/-- An operation on contexts with all it is given. -/
inductive Task where
  /-- Templates are rendered. -/
  | render (c : Context) (templates : List Value)
  /-- Templates are rendered on a condition. -/
  | renderIf (c : Context) (condition : Value) (templates : List Value)
  /-- One of two templates is rendered. -/
  | renderIfElse (c : Context) (condition yes no : Value)
  /-- Templates are rendered against data. -/
  | applyData (data template : Value) (templates : List Value)
  /-- Data is rebound. -/
  | rebind (c : Context) (selectors : List Value)
  /-- Items are joined by position or by key. -/
  | joinIn (j : JoinCall)
  /-- Items are joined in the mode that they decide. -/
  | join (c : Context) (items : Value) (spec : JoinSpec)

namespace Task

/-- The operation as the library runs it. -/
def run (h : Host) : Task → Action Value
  | .render c templates => .str <$> c.render h templates
  | .renderIf c condition templates => .str <$> c.renderIf h condition templates
  | .renderIfElse c condition yes no => .str <$> c.renderIfElse h condition yes no
  | .applyData data template templates => .str <$> Stencil.applyData h data template templates
  | .rebind c selectors => .context <$> c.rebind h selectors
  | .joinIn j => .str <$> j.run h
  | .join c items spec => .str <$> c.join h items spec

/-- A task comes to another one, in a state, and ends with its failure if it fails. -/
inductive Part (h : Host) : Task → State → Task → State → Prop
  /-- The condition holds. -/
  | holds {c : Context} {condition : Value} {templates : List Value} {s t : State}
      (hcondition : (c.holds h condition).run s = .ok true t) :
      Part h (.renderIf c condition templates) s (.render c templates) t
  /-- The condition decides, and one of the two templates is rendered. -/
  | chosen {c : Context} {condition yes no : Value} {holds : Bool} {s t : State}
      (hcondition : (c.holds h condition).run s = .ok holds t) :
      Part h (.renderIfElse c condition yes no) s (.render c [if holds then yes else no]) t
  /-- Templates are rendered in a new root. -/
  | root {data template : Value} {templates : List Value} {s : State} :
      Part h (.applyData data template templates) s
        (.render (.ofData s.nextId data) (template :: templates)) { s with nextId := s.nextId + 1 }
  /-- Items other than null are joined. -/
  | mode {c : Context} {items : Value} {spec : JoinSpec} {s : State}
      (hitems : items.isNull = false) :
      Part h (.join c items spec) s (.joinIn ⟨c, items, items.joinMode, spec⟩) s
  /-- Some result was kept, and the opening is rendered. -/
  | opening {j : JoinCall} {visited : List (Entry × Value)} {s t : State}
      (hwalk : j.items.isWalkable j.mode = true) (hend : j.Exhausts h s visited t)
      (hkept : JoinCall.kept visited ≠ []) :
      Part h (.joinIn j) s (.render j.context [j.spec.opening]) t
  /-- The opening is rendered and the results are joined, and the closing is rendered. -/
  | closing {j : JoinCall} {visited : List (Entry × Value)} {opening body : String}
      {s t u : State} (hwalk : j.items.isWalkable j.mode = true)
      (hend : j.Exhausts h s visited t) (hkept : JoinCall.kept visited ≠ [])
      (hopening : (j.context.render h [j.spec.opening]).run t = .ok opening u)
      (hbody : joinResults j.spec.separator (JoinCall.kept visited) = .ok body) :
      Part h (.joinIn j) s (.render j.context [j.spec.closing]) u

/-- In a state, a task makes a request: all before it has succeeded. -/
inductive Requests (h : Host) : Task → State → Request → State → Prop
  /-- A leaf is called. -/
  | leaf {c : Context} {templates before after : List Value} {leaf : Value} {text : String}
      {s t : State} (hleaves : Template.leaves templates = before ++ leaf :: after)
      (hbefore : (c.renderLeaves h before).run s = .ok text t) (hleaf : leaf.isCallable = true) :
      Requests h (.render c templates) s
        (.leaf leaf [.context c, c.data] (Template.leaves templates).length) t
  /-- The condition of templates is called. -/
  | condition {c : Context} {condition : Value} {templates : List Value} {s : State}
      (hcondition : condition.isCallable = true) :
      Requests h (.renderIf c condition templates) s (.call condition [.context c, c.data]) s
  /-- The condition that decides between two templates is called. -/
  | choice {c : Context} {condition yes no : Value} {s : State}
      (hcondition : condition.isCallable = true) :
      Requests h (.renderIfElse c condition yes no) s (.call condition [.context c, c.data]) s
  /-- A selector is called with the data of the step before. -/
  | selector {c d : Context} {before after : List Value} {selector : Value} {s t : State}
      (hbefore : (c.rebind h before).run s = .ok d t) (hselector : selector.isCallable = true) :
      Requests h (.rebind c (before ++ selector :: after)) s (.call selector [d.data]) t
  /-- The next element of a one-shot iterator is asked for. -/
  | element {j : JoinCall} {id : Nat} {visited : List (Entry × Value)} {s t : State}
      (hmode : j.mode = .sequence) (hitems : j.items = .iterator id)
      (hwalk : j.Walk h 0 s visited t) : Requests h (.joinIn j) s (.element id) t
  /-- The callback is called for an entry, in a child context that was made for it. -/
  | callback {j : JoinCall} {visited : List (Entry × Value)} {entry : Entry} {s t : State}
      (hwalk : j.items.isWalkable j.mode = true) (hreach : j.Reaches h s visited entry t)
      (hcallback : j.spec.callback.isCallable = true) :
      Requests h (.joinIn j) s
        (.call j.spec.callback ((j.spec.resolveShape j.mode).arguments
          (.context (j.context.child t.nextId entry)) (.int entry.index) (.str entry.name)
          entry.item)) { t with nextId := t.nextId + 1 }
  /-- The task comes to another one that makes the request. -/
  | part {task sub : Task} {q : Request} {s t u : State} (hpart : Part h task s sub t)
      (hsub : Requests h sub t q u) : Requests h task s q u

/-- In a state, a task fails by itself: all before has succeeded, and what it came to is no text,
has no entries, cannot be called or cannot be joined. -/
inductive Refuses (h : Host) : Task → State → Failure → State → Prop
  /-- A leaf, or what it returned, is neither a text nor null. -/
  | notText {c : Context} {templates before after : List Value} {leaf result : Value}
      {text : String} {s t u : State}
      (hleaves : Template.leaves templates = before ++ leaf :: after)
      (hbefore : (c.renderLeaves h before).run s = .ok text t)
      (hresult : (leaf.resolve h [.context c, c.data]).run t = .ok result u)
      (hnull : result.isNull = false) (htext : result.toText? = none) :
      Refuses h (.render c templates) s (.notText leaf result) u
  /-- Items cannot be walked over by position, and no callback is called. -/
  | notIterable {j : JoinCall} {s : State} (hmode : j.mode = .sequence)
      (hwalk : j.items.isWalkable j.mode = false) :
      Refuses h (.joinIn j) s (.notIterable j.items) s
  /-- Items cannot be walked over by key, and no callback is called. -/
  | noEntries {j : JoinCall} {s : State} (hmode : j.mode = .mapping)
      (hwalk : j.items.isWalkable j.mode = false) :
      Refuses h (.joinIn j) s (.missingAttribute j.items "items") s
  /-- The callback cannot be called, and there is an entry to call it for. -/
  | notCallable {j : JoinCall} {entry : Entry} {s t : State}
      (hwalk : j.items.isWalkable j.mode = true) (hreach : j.Reaches h s [] entry t)
      (hcallback : j.spec.callback.isCallable = false) :
      Refuses h (.joinIn j) s (.notCallable j.spec.callback) { t with nextId := t.nextId + 1 }
  /-- Some result was kept and the opening is rendered, but the results cannot be joined. -/
  | unjoinable {j : JoinCall} {visited : List (Entry × Value)} {opening : String} {e : Failure}
      {s t u : State} (hwalk : j.items.isWalkable j.mode = true)
      (hend : j.Exhausts h s visited t) (hkept : JoinCall.kept visited ≠ [])
      (hopening : (j.context.render h [j.spec.opening]).run t = .ok opening u)
      (hbody : joinResults j.spec.separator (JoinCall.kept visited) = .error e) :
      Refuses h (.joinIn j) s e u
  /-- The task comes to another one that fails by itself. -/
  | part {task sub : Task} {e : Failure} {s t u : State} (hpart : Part h task s sub t)
      (hsub : Refuses h sub t e u) : Refuses h task s e u

/-- In a state, a task needs a label for an entry of a dictionary, but the key cannot be written. -/
inductive Mislabels (h : Host) : Task → State → State → Prop
  /-- The key of the entry in the next place cannot be written. -/
  | key {j : JoinCall} {entries : Entries} {visited : List (Entry × Value)} {key value : Value}
      {s t : State} (hmode : j.mode = .mapping) (hitems : j.items = .dict entries)
      (hwalk : j.Walk h 0 s visited t) (hentry : entries[visited.length]? = some (key, value))
      (hkey : key.isWritable = false) : Mislabels h (.joinIn j) s t
  /-- The task comes to another one that needs the label. -/
  | part {task sub : Task} {s t u : State} (hpart : Part h task s sub t)
      (hsub : Mislabels h sub t u) : Mislabels h task s u

end Task

namespace Value

/-- Only a key that is too long to write has no text. -/
theorem written_eq_error_iff {v : Value} {e : Failure} :
    v.written = .error e ↔ v.isWritable = false ∧ e = .unwritable := by
  cases hv : v.isWritable with
  | true => simp [written, hv]
  | false => simp [written, hv, eq_comm]

end Value

namespace JoinCall

section

variable {h : Host} {j : JoinCall} {s t : State} {e : Failure}

/-- An entry cannot be had because an iterator gives no element, or because a key has no text. -/
theorem run_ask_eq_error_iff {i : Nat} :
    (j.ask h i).run s = .error e t ↔
      (∃ id, j.mode = .sequence ∧ j.items = .iterator id ∧
        (Action.draw h id).run s = .error e t) ∨
      ∃ entries key value, j.mode = .mapping ∧ j.items = .dict entries ∧
        entries[i]? = some (key, value) ∧ key.isWritable = false ∧ e = .unwritable ∧ t = s := by
  obtain ⟨c, items, mode, spec⟩ := j
  cases mode with
  | mapping =>
    cases items with
    | dict entries =>
      cases hentry : entries[i]? with
      | none => simp [ask, hentry]
      | some entry =>
        obtain ⟨key, value⟩ := entry
        have hrun : (ask h ⟨c, .dict entries, .mapping, spec⟩ i).run s = .error e t ↔
            (key.isWritable = false ∧ e = .unwritable) ∧ s = t := by
          simp only [ask, hentry, Action.run_bind_eq_error_iff, Action.run_ofExcept_eq_error_iff,
            Value.written_eq_error_iff]
          refine or_iff_left ?_
          rintro ⟨name, u, -, ⟨⟩⟩
        rw [hrun]
        constructor
        · rintro ⟨⟨hkey, rfl⟩, rfl⟩
          exact .inr ⟨entries, key, value, rfl, rfl, hentry, hkey, rfl, rfl⟩
        · rintro (⟨_, ⟨⟩, _⟩ | ⟨_, key', value', _, ⟨⟩, hentry', hkey, rfl, rfl⟩)
          obtain ⟨rfl, rfl⟩ : key = key' ∧ value = value' := by
            simpa [hentry] using hentry'
          exact ⟨⟨hkey, rfl⟩, rfl⟩
    | _ => simp [ask]
  | sequence =>
    cases items with
    | iterator id =>
      have hrun : (ask h ⟨c, .iterator id, .sequence, spec⟩ i).run s = .error e t ↔
          (Action.draw h id).run s = .error e t := by
        simp only [ask, Action.run_bind_eq_error_iff]
        refine or_iff_left ?_
        rintro ⟨item?, u, -, ⟨⟩⟩
      rw [hrun]
      constructor
      · exact fun hdraw => .inl ⟨id, rfl, rfl, hdraw⟩
      · rintro (⟨_, _, ⟨⟩, hdraw⟩ | ⟨_, _, _, ⟨⟩, _⟩)
        exact hdraw
    | _ => simp [ask]

/-- A callback that cannot be called is visited with no success. -/
theorem Walk.eq_nil (hcallback : j.spec.callback.isCallable = false) {i : Nat}
    {visited : List (Entry × Value)} (hwalk : j.Walk h i s visited t) : visited = [] := by
  cases hwalk with
  | nil => rfl
  | @cons _ _ u v _ entry result _ _ hvisit _ =>
    simp only [visit, Value.call_of_not_isCallable h hcallback] at hvisit
    cases hvisit

/-- Items that a mode cannot walk over are refused before anything else. -/
theorem run_of_isWalkable_eq_false (hwalk : j.items.isWalkable j.mode = false) :
    (j.run h).run s = .error (match j.mode with
      | .sequence => .notIterable j.items
      | .mapping => .missingAttribute j.items "items") s := by
  obtain ⟨c, items, mode, spec⟩ := j
  cases mode with
  | mapping =>
    cases items with
    | dict entries => cases hwalk
    | _ => rfl
  | sequence =>
    cases items with
    | null | bool | int | function | applied | context | shape => rfl
    | _ => cases hwalk

end

end JoinCall

namespace Task

section

variable {h : Host} {task sub : Task} {s t u : State} {e : Failure}

/-- A failure of a task that has a cause: a request that failed, or what the task does itself. -/
def Explains (h : Host) (task : Task) (s : State) (e : Failure) (t : State) : Prop :=
  (∃ q u cause, task.Requests h s q u ∧ (q.answer h).run u = .error cause t ∧
    e = q.failure cause) ∨
    task.Refuses h s e t ∨ (task.Mislabels h s t ∧ e = .unwritable)

/-- What explains the failure of a part explains that of the whole. -/
theorem Explains.part (hpart : Part h task s sub t) (hsub : sub.Explains h t e u) :
    task.Explains h s e u := by
  rcases hsub with ⟨q, v, cause, hrequest, hanswer, he⟩ | hrefuse | ⟨hlabel, rfl⟩
  · exact .inl ⟨q, v, cause, .part hpart hrequest, hanswer, he⟩
  · exact .inr (.inl (.part hpart hrefuse))
  · exact .inr (.inr ⟨.part hpart hlabel, rfl⟩)

/-- A task fails where a task that it comes to does. -/
theorem Part.run_error (hh : h.Lawful) (hpart : Part h task s sub t)
    (hsub : (sub.run h).run t = .error e u) : (task.run h).run s = .error e u := by
  cases hpart with
  | holds hcondition =>
    have hrender := Action.run_map_eq_error_iff.mp hsub
    have hif := Context.run_renderIf_eq_error_iff.mpr (.inr ⟨t, hcondition, hrender⟩)
    exact Action.run_map_eq_error_iff.mpr hif
  | chosen hcondition =>
    have hrender := Action.run_map_eq_error_iff.mp hsub
    have hif := Context.run_renderIfElse_eq_error_iff.mpr (.inr ⟨_, t, hcondition, hrender⟩)
    exact Action.run_map_eq_error_iff.mpr hif
  | root => exact hsub
  | @mode c items spec s hitems =>
    rw [run, c.join_eq_run h hitems]
    exact hsub
  | opening hwalk hend hkept =>
    have hrender := Action.run_map_eq_error_iff.mp hsub
    have hassemble := Context.run_assemble_eq_error_iff.mpr ⟨hkept, .inl hrender⟩
    have hjoin := (JoinCall.run_eq_error_iff hh hwalk).mpr (.inr (.inr ⟨_, _, hend, hassemble⟩))
    exact Action.run_map_eq_error_iff.mpr hjoin
  | closing hwalk hend hkept hopening hbody =>
    have hrender := Action.run_map_eq_error_iff.mp hsub
    have hassemble := Context.run_assemble_eq_error_iff.mpr
      ⟨hkept, .inr ⟨_, _, hopening, .inr ⟨_, hbody, hrender⟩⟩⟩
    have hjoin := (JoinCall.run_eq_error_iff hh hwalk).mpr (.inr (.inr ⟨_, _, hend, hassemble⟩))
    exact Action.run_map_eq_error_iff.mpr hjoin

/-- A task fails as the request does that it makes. -/
theorem Requests.run_error (hh : h.Lawful) {q : Request} (hrequest : task.Requests h s q u)
    (hanswer : (q.answer h).run u = .error e t) :
    (task.run h).run s = .error (q.failure e) t := by
  induction hrequest with
  | leaf hleaves hbefore hleaf =>
    have hcall := Action.run_map_eq_error_iff.mp hanswer
    have hfail := Context.run_renderLeaf_eq_error_iff.mpr (.inl ⟨hleaf, hcall⟩)
    have hrender := Context.run_render_eq_error_iff.mpr
      ⟨_, _, _, _, _, _, hleaves, hbefore, hfail, rfl⟩
    exact Action.run_map_eq_error_iff.mpr hrender
  | condition hcondition =>
    have hcall := Action.run_map_eq_error_iff.mp hanswer
    refine Action.run_map_eq_error_iff.mpr (Context.run_renderIf_eq_error_iff.mpr (.inl ?_))
    exact ⟨hcondition, hcall⟩
  | choice hcondition =>
    have hcall := Action.run_map_eq_error_iff.mp hanswer
    refine Action.run_map_eq_error_iff.mpr (Context.run_renderIfElse_eq_error_iff.mpr (.inl ?_))
    exact ⟨hcondition, hcall⟩
  | selector hbefore hselector =>
    have hcall := Action.run_map_eq_error_iff.mp hanswer
    refine Action.run_map_eq_error_iff.mpr (Context.run_rebind_eq_error_iff.mpr ?_)
    exact ⟨_, _, _, _, _, rfl, hbefore, hselector, hcall⟩
  | @element j id visited s u hmode hitems hwalk =>
    have hwalkable : j.items.isWalkable j.mode = true := by rw [hmode, hitems]; rfl
    have hask : (j.ask h visited.length).run u = .error e t :=
      JoinCall.run_ask_eq_error_iff.mpr (.inl ⟨id, hmode, hitems, hanswer⟩)
    have hjoin := (JoinCall.run_eq_error_iff hh hwalkable).mpr (.inl ⟨visited, u, hwalk, hask⟩)
    exact Action.run_map_eq_error_iff.mpr hjoin
  | callback hwalk hreach hcallback =>
    have hcall := Action.run_map_eq_error_iff.mp hanswer
    have hvisit := JoinCall.run_visit_eq_error_iff.mpr hcall
    have hjoin := (JoinCall.run_eq_error_iff hh hwalk).mpr
      (.inr (.inl ⟨_, _, _, hreach, hvisit⟩))
    exact Action.run_map_eq_error_iff.mpr hjoin
  | part hpart _ ih => exact hpart.run_error hh (ih hanswer)

/-- A task fails by itself as it says. -/
theorem Refuses.run_error (hh : h.Lawful) (hrefuse : task.Refuses h s e t) :
    (task.run h).run s = .error e t := by
  induction hrefuse with
  | notText hleaves hbefore hresult hnull htext =>
    have hfail := Context.run_renderLeaf_eq_error_iff.mpr
      (.inr ⟨_, hresult, hnull, htext, rfl⟩)
    have hrender := Context.run_render_eq_error_iff.mpr
      ⟨_, _, _, _, _, _, hleaves, hbefore, hfail, (Failure.among_notText _ _ _).symm⟩
    exact Action.run_map_eq_error_iff.mpr hrender
  | notIterable hmode hwalk =>
    refine Action.run_map_eq_error_iff.mpr ?_
    rw [JoinCall.run_of_isWalkable_eq_false hwalk, hmode]
  | noEntries hmode hwalk =>
    refine Action.run_map_eq_error_iff.mpr ?_
    rw [JoinCall.run_of_isWalkable_eq_false hwalk, hmode]
  | @notCallable j entry s t hwalk hreach hcallback =>
    have hvisit : (j.visit h entry).run t =
        .error (.notCallable j.spec.callback) { t with nextId := t.nextId + 1 } := by
      rw [JoinCall.run_visit_eq_error_iff, Value.call_of_not_isCallable h hcallback]
      rfl
    have hjoin := (JoinCall.run_eq_error_iff hh hwalk).mpr
      (.inr (.inl ⟨_, _, _, hreach, hvisit⟩))
    exact Action.run_map_eq_error_iff.mpr hjoin
  | unjoinable hwalk hend hkept hopening hbody =>
    have hassemble := Context.run_assemble_eq_error_iff.mpr
      ⟨hkept, .inr ⟨_, _, hopening, .inl ⟨hbody, rfl⟩⟩⟩
    have hjoin := (JoinCall.run_eq_error_iff hh hwalk).mpr (.inr (.inr ⟨_, _, hend, hassemble⟩))
    exact Action.run_map_eq_error_iff.mpr hjoin
  | part hpart _ ih => exact hpart.run_error hh ih

/-- A task that needs the text of a key too long to write fails for that. -/
theorem Mislabels.run_error (hh : h.Lawful) (hlabel : task.Mislabels h s t) :
    (task.run h).run s = .error .unwritable t := by
  induction hlabel with
  | @key j entries visited key value s t hmode hitems hwalk hentry hkey =>
    have hwalkable : j.items.isWalkable j.mode = true := by rw [hmode, hitems]; rfl
    have hask : (j.ask h visited.length).run t = .error .unwritable t :=
      JoinCall.run_ask_eq_error_iff.mpr
        (.inr ⟨entries, key, value, hmode, hitems, hentry, hkey, rfl, rfl⟩)
    have hjoin := (JoinCall.run_eq_error_iff hh hwalkable).mpr (.inl ⟨visited, t, hwalk, hask⟩)
    exact Action.run_map_eq_error_iff.mpr hjoin
  | part hpart _ ih => exact hpart.run_error hh ih

/-- A failing rendering is explained. -/
theorem explains_render {c : Context} {templates : List Value}
    (hrun : (c.render h templates).run s = .error e t) :
    (Task.render c templates).Explains h s e t := by
  obtain ⟨before, leaf, after, text, u, cause, hleaves, hbefore, hfail, rfl⟩ :=
    Context.run_render_eq_error_iff.mp hrun
  rcases Context.run_renderLeaf_eq_error_iff.mp hfail with ⟨hleaf, hcall⟩ |
    ⟨result, hresult, hnull, htext, rfl⟩
  · refine .inl ⟨_, u, cause, .leaf hleaves hbefore hleaf, ?_, rfl⟩
    exact Action.run_map_eq_error_iff.mpr hcall
  · rw [Failure.among_notText]
    exact .inr (.inl (.notText hleaves hbefore hresult hnull htext))

/-- A failing rebinding is explained. -/
theorem explains_rebind {c : Context} {selectors : List Value}
    (hrun : (c.rebind h selectors).run s = .error e t) :
    (Task.rebind c selectors).Explains h s e t := by
  obtain ⟨before, selector, after, d, u, rfl, hbefore, hselector, hcall⟩ :=
    Context.run_rebind_eq_error_iff.mp hrun
  refine .inl ⟨_, u, e, .selector hbefore hselector, ?_, rfl⟩
  exact Action.run_map_eq_error_iff.mpr hcall

/-- A failing join in one of the two modes is explained. -/
theorem explains_joinIn (hh : h.Lawful) {j : JoinCall} (hrun : (j.run h).run s = .error e t) :
    (Task.joinIn j).Explains h s e t := by
  cases hwalk : j.items.isWalkable j.mode with
  | false =>
    rw [JoinCall.run_of_isWalkable_eq_false hwalk] at hrun
    cases hmode : j.mode with
    | sequence =>
      rw [hmode] at hrun
      cases hrun
      exact .inr (.inl (.notIterable hmode hwalk))
    | mapping =>
      rw [hmode] at hrun
      cases hrun
      exact .inr (.inl (.noEntries hmode hwalk))
  | true =>
    rcases (JoinCall.run_eq_error_iff hh hwalk).mp hrun with ⟨visited, u, hvisited, hask⟩ |
      ⟨visited, entry, u, hreach, hvisit⟩ | ⟨visited, u, hend, hassemble⟩
    · rcases JoinCall.run_ask_eq_error_iff.mp hask with ⟨id, hmode, hitems, hdraw⟩ |
        ⟨entries, key, value, hmode, hitems, hentry, hkey, rfl, rfl⟩
      · exact .inl ⟨.element id, u, e, .element hmode hitems hvisited, hdraw, rfl⟩
      · exact .inr (.inr ⟨.key hmode hitems hvisited hentry hkey, rfl⟩)
    · have hcall := JoinCall.run_visit_eq_error_iff.mp hvisit
      cases hcallback : j.spec.callback.isCallable with
      | true =>
        refine .inl ⟨_, _, e, .callback hwalk hreach hcallback, ?_, rfl⟩
        exact Action.run_map_eq_error_iff.mpr hcall
      | false =>
        -- Had an entry been visited before, its visit would have failed already.
        obtain ⟨v, hvisited, hask⟩ := hreach
        obtain rfl := hvisited.eq_nil hcallback
        rw [Value.call_of_not_isCallable h hcallback] at hcall
        cases hcall
        exact .inr (.inl (.notCallable hwalk ⟨v, hvisited, hask⟩ hcallback))
    · obtain ⟨hkept, hfail⟩ := Context.run_assemble_eq_error_iff.mp hassemble
      rcases hfail with hopening | ⟨opening, v, hopening, ⟨hbody, rfl⟩ | ⟨body, hbody, hclosing⟩⟩
      · exact (explains_render hopening).part (.opening hwalk hend hkept)
      · exact .inr (.inl (.unjoinable hwalk hend hkept hopening hbody))
      · exact (explains_render hclosing).part (.closing hwalk hend hkept hopening hbody)

/-- Every failure of a task is explained: a request of it failed, or it failed by itself. -/
theorem explains_of_run (hh : h.Lawful) (hrun : (task.run h).run s = .error e t) :
    task.Explains h s e t := by
  cases task with
  | render c templates => exact explains_render (Action.run_map_eq_error_iff.mp hrun)
  | renderIf c condition templates =>
    have hif := Action.run_map_eq_error_iff.mp hrun
    rcases Context.run_renderIf_eq_error_iff.mp hif with ⟨hcallable, hcall⟩ |
      ⟨u, hcondition, hrender⟩
    · refine .inl ⟨_, s, e, .condition hcallable, ?_, rfl⟩
      exact Action.run_map_eq_error_iff.mpr hcall
    · exact (explains_render hrender).part (.holds hcondition)
  | renderIfElse c condition yes no =>
    have hif := Action.run_map_eq_error_iff.mp hrun
    rcases Context.run_renderIfElse_eq_error_iff.mp hif with ⟨hcallable, hcall⟩ |
      ⟨holds, u, hcondition, hrender⟩
    · refine .inl ⟨_, s, e, .choice hcallable, ?_, rfl⟩
      exact Action.run_map_eq_error_iff.mpr hcall
    · exact (explains_render hrender).part (.chosen hcondition)
  | applyData data template templates =>
    exact (explains_render (Action.run_map_eq_error_iff.mp hrun)).part .root
  | rebind c selectors => exact explains_rebind (Action.run_map_eq_error_iff.mp hrun)
  | joinIn j => exact explains_joinIn hh (Action.run_map_eq_error_iff.mp hrun)
  | join c items spec =>
    have hjoin := Action.run_map_eq_error_iff.mp hrun
    cases hitems : items.isNull with
    | true =>
      cases items with
      | null => cases hjoin
      | _ => cases hitems
    | false =>
      rw [c.join_eq_run h hitems] at hjoin
      exact (explains_joinIn hh hjoin).part (.mode hitems)

end

end Task

/-- What a request fails with is what the operation fails with, unless a leaf among several fails
with the sign that an iteration is at its end. -/
theorem Request.failure_eq_or (q : Request) (cause : Failure) :
    q.failure cause = cause ∨
      ∃ callee arguments count, q = .leaf callee arguments count ∧ 1 < count ∧
        cause.kind = "StopIteration" ∧ q.failure cause = .brokenIteration := by
  cases q with
  | call callee arguments => exact .inl rfl
  | element id => exact .inl rfl
  | leaf callee arguments count =>
    rcases cause.among_eq_or count with hkept | ⟨hcount, hkind, hbroken⟩
    · exact .inl hkept
    · exact .inr ⟨callee, arguments, count, rfl, hcount, hkind, hbroken⟩

/-- A natural number with too many digits cannot be written. -/
theorem Value.isWritable_eq_false_of_le {n : Nat} (hn : Value.writeBound ≤ n) :
    (Value.int (.ofNat n)).isWritable = false := by
  rw [isWritable, isShort, decide_eq_false_iff_not, Nat.not_lt]
  exact hn

/-- A join by key over a dictionary whose only key has one digit too many to be written. -/
def longKeyJoin : JoinCall where
  context := .ofData 0 .null
  items := .dict [(.int (.ofNat Value.writeBound), .str "v")]
  mode := .mapping
  spec := ⟨.str ",", .function ⟨1, "echo", some [⟨"c", .positional, false⟩,
    ⟨"d", .positional, false⟩], .argument 1 0, []⟩, .null, .null, .null⟩

namespace JoinCall

section

variable {h : Host} {j : JoinCall} {s t : State} {e : Failure} {visited : List (Entry × Value)}

/-- Where the first entry cannot be had, no entry is visited. -/
theorem not_reaches_of_ask_error (hask : (j.ask h 0).run s = .error e t) (entry : Entry)
    (u : State) : ¬j.Reaches h s visited entry u := by
  rintro ⟨v, hwalk, hsome⟩
  cases hwalk with
  | nil => cases hask.symm.trans hsome
  | cons hfirst => cases hask.symm.trans hfirst

/-- Where the first entry cannot be had, the entries do not come to their end. -/
theorem not_exhausts_of_ask_error (hask : (j.ask h 0).run s = .error e t) (u : State) :
    ¬j.Exhausts h s visited u := by
  rintro ⟨v, hwalk, hnone⟩
  cases hwalk with
  | nil => cases hask.symm.trans hnone
  | cons hfirst => cases hask.symm.trans hfirst

end

end JoinCall

/-- A key too long to be a label makes a join fail with no request made and nothing refused. -/
theorem longKeyJoin_fails_unasked :
    ((Task.joinIn longKeyJoin).run (Host.ofDepth 1)).run default = .error .unwritable default ∧
      ¬((∃ q u, (Task.joinIn longKeyJoin).Requests (Host.ofDepth 1) default q u ∧
          (q.answer (Host.ofDepth 1)).run u = .error .unwritable default) ∨
        (Task.joinIn longKeyJoin).Refuses (Host.ofDepth 1) default .unwritable default) := by
  have hkey := Value.isWritable_eq_false_of_le (Nat.le_refl Value.writeBound)
  have hask : (longKeyJoin.ask (Host.ofDepth 1) 0).run default = .error .unwritable default :=
    JoinCall.run_ask_eq_error_iff.mpr (.inr ⟨_, _, _, rfl, rfl, rfl, hkey, rfl, rfl⟩)
  have hlabel : (Task.joinIn longKeyJoin).Mislabels (Host.ofDepth 1) default default :=
    .key rfl rfl (.nil 0 default) rfl hkey
  refine ⟨hlabel.run_error (Host.ofDepth_lawful 1), ?_⟩
  rintro (⟨q, u, hrequest, -⟩ | hrefuse)
  · cases hrequest with
    | element hmode => cases hmode
    | callback _ hreach => exact JoinCall.not_reaches_of_ask_error hask _ _ hreach
    | part hpart =>
      cases hpart with
      | opening _ hend => exact JoinCall.not_exhausts_of_ask_error hask _ hend
      | closing _ hend => exact JoinCall.not_exhausts_of_ask_error hask _ hend
  · cases hrefuse with
    | unjoinable _ hend => exact JoinCall.not_exhausts_of_ask_error hask _ hend
    | part hpart =>
      cases hpart with
      | opening _ hend => exact JoinCall.not_exhausts_of_ask_error hask _ hend
      | closing _ hend => exact JoinCall.not_exhausts_of_ask_error hask _ hend

end Stencil
