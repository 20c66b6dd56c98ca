import Stencil.Proofs.Advance
import Stencil.Proofs.Outcome

/-!
# Runs of joins

`JoinRun` says what a join does, one step after the other, without a feed or a number of rounds: it
asks for an entry, calls the callback for it, and only then asks for the next, until there is none.
Then it renders the opening and the closing if some result was kept. A join of the library does
exactly this: the number of fetches that bounds its loop is never what ends it, as nothing that a
callable does gives a one-shot iterator back what was taken from it.
-/

namespace Stencil

/-- Whether a value can be walked over in a mode: by key only a dictionary can, by position whatever
has elements. -/
def Value.isWalkable : Mode → Value → Bool
  | .mapping, .dict _ => true
  | .mapping, _ => false
  | .sequence, .iterator _ => true
  | .sequence, items => items.elements?.isSome

/-- A join over items in one of the two modes. -/
structure JoinCall where
  /-- The context that joins. -/
  context : Context
  /-- What is walked over. -/
  items : Value
  /-- By position or by key. -/
  mode : Mode
  /-- The other parts of the join. -/
  spec : JoinSpec

namespace JoinCall

/-- The join as the library runs it. -/
def run (h : Host) (j : JoinCall) : Action String :=
  match j.mode with
  | .sequence => j.context.joinSequence h j.items j.spec
  | .mapping => j.context.joinMapping h j.items j.spec

/-- Asks for the entry in a place. By key it is labelled with the text of the key, by position with
the decimal position; an element of a one-shot iterator is evaluated now. -/
def ask (h : Host) (j : JoinCall) (i : Nat) : Action (Option Entry) :=
  match j.mode, j.items with
  | .mapping, .dict entries =>
    match entries[i]? with
    | none => pure none
    | some (key, value) => do
      let name ← Action.ofExcept key.written
      pure (some ⟨i, name, value⟩)
  | .sequence, .iterator id => do
    let item? ← Action.draw h id
    pure (item?.map fun item => ⟨i, toString i, item⟩)
  | .sequence, items => pure ((items.elements?.getD [])[i]?.map fun item => ⟨i, toString i, item⟩)
  | .mapping, _ => pure none

/-- From a state, what is walked over has an element under a name in a place, and asking for it
comes to a state. -/
inductive Supplies (h : Host) (j : JoinCall) (i : Nat) : State → String → Value → State → Prop
  /-- By key, the element is the value under the key in the place, and the text of this key the
  name. -/
  | key {entries : Entries} {key value : Value} {s : State} (hmode : j.mode = .mapping)
      (hitems : j.items = .dict entries) (hentry : entries[i]? = some (key, value)) :
      Supplies h j i s key.text value s
  /-- By position, the element is the one in the place, and the decimal place the name. -/
  | element {elements : List Value} {x : Value} {s : State} (hmode : j.mode = .sequence)
      (helements : j.items.elements? = some elements) (hx : elements[i]? = some x) :
      Supplies h j i s (toString i) x s
  /-- The element is the next of a one-shot iterator, and the decimal place the name. -/
  | drawn {id : Nat} {x : Value} {s t : State} (hmode : j.mode = .sequence)
      (hitems : j.items = .iterator id) (hdraw : (Action.draw h id).run s = .ok (some x) t) :
      Supplies h j i s (toString i) x t

/-- Calls the callback for an entry, with the arguments of its shape, in a child context that is
made for the entry. -/
def visit (h : Host) (j : JoinCall) (entry : Entry) : Action Value := do
  let id ← Action.freshId
  let child := Context.new id entry.item (some j.context) (.int entry.index) (.str entry.name)
  j.spec.callback.call h ((j.spec.resolveShape j.mode).arguments (.context child)
    (.int entry.index) (.str entry.name) entry.item)

/-- From a place and a state, entries are had and visited one by one, each visited before the next
is asked for; the visits give the results that stand beside the entries. -/
inductive Walk (h : Host) (j : JoinCall) :
    Nat → State → List (Entry × Value) → State → Prop
  | nil (i : Nat) (s : State) : Walk h j i s [] s
  | cons {i : Nat} {s u v t : State} {entry : Entry} {result : Value}
      {visited : List (Entry × Value)} (hask : (j.ask h i).run s = .ok (some entry) u)
      (hvisit : (j.visit h entry).run u = .ok result v) (hrest : Walk h j (i + 1) v visited t) :
      Walk h j i s ((entry, result) :: visited) t

/-- The results of visits that are kept, in order: all but null. -/
def kept (visited : List (Entry × Value)) : List Value :=
  (visited.map (·.2)).filter fun result => !result.isNull

/-- After the given visits the callback is about to be called for the given entry. -/
def Reaches (h : Host) (j : JoinCall) (s : State) (visited : List (Entry × Value)) (entry : Entry)
    (t : State) : Prop :=
  ∃ u, j.Walk h 0 s visited u ∧ (j.ask h visited.length).run u = .ok (some entry) t

/-- After the given visits there is no entry left. -/
def Exhausts (h : Host) (j : JoinCall) (s : State) (visited : List (Entry × Value)) (t : State) :
    Prop :=
  ∃ u, j.Walk h 0 s visited u ∧ (j.ask h visited.length).run u = .ok none t

end JoinCall

/-- What a join with a text as separator does from a state, with the outcome it has. -/
inductive JoinRun (h : Host) (j : JoinCall) (separator : String) (s : State) :
    EStateM.Result Failure State String → Prop
  /-- An entry cannot be had. -/
  | entryFails {visited : List (Entry × Value)} {t u : State} {e : Failure}
      (hwalk : j.Walk h 0 s visited t) (hask : (j.ask h visited.length).run t = .error e u) :
      JoinRun h j separator s (.error e u)
  /-- The callback fails for an entry. -/
  | visitFails {visited : List (Entry × Value)} {entry : Entry} {t u : State} {e : Failure}
      (hreach : j.Reaches h s visited entry t) (hvisit : (j.visit h entry).run t = .error e u) :
      JoinRun h j separator s (.error e u)
  /-- No result was kept; neither opening nor closing is rendered. -/
  | nothing {visited : List (Entry × Value)} {t : State} (hend : j.Exhausts h s visited t)
      (hkept : JoinCall.kept visited = []) : JoinRun h j separator s (.ok "" t)
  /-- The opening fails. -/
  | openingFails {visited : List (Entry × Value)} {t u : State} {e : Failure}
      (hend : j.Exhausts h s visited t) (hkept : JoinCall.kept visited ≠ [])
      (hopening : (j.context.render h [j.spec.opening]).run t = .error e u) :
      JoinRun h j separator s (.error e u)
  /-- A kept result is no text; the first such one is named, after the opening was rendered. -/
  | unjoinable {visited : List (Entry × Value)} {t u : State} {opening : String}
      {texts : List String} {result : Value} {rest : List Value} (hend : j.Exhausts h s visited t)
      (hkept : JoinCall.kept visited = texts.map .str ++ result :: rest)
      (hresult : result.toText? = none)
      (hopening : (j.context.render h [j.spec.opening]).run t = .ok opening u) :
      JoinRun h j separator s (.error (.notJoinableText texts.length result) u)
  /-- The closing fails. -/
  | closingFails {visited : List (Entry × Value)} {t u v : State} {opening : String}
      {texts : List String} {e : Failure} (hend : j.Exhausts h s visited t)
      (hkept : JoinCall.kept visited = texts.map .str) (hne : texts ≠ [])
      (hopening : (j.context.render h [j.spec.opening]).run t = .ok opening u)
      (hclosing : (j.context.render h [j.spec.closing]).run u = .error e v) :
      JoinRun h j separator s (.error e v)
  /-- All kept results are texts: opening, results with the separator between them, closing. -/
  | joined {visited : List (Entry × Value)} {t u v : State} {opening closing : String}
      {texts : List String} (hend : j.Exhausts h s visited t)
      (hkept : JoinCall.kept visited = texts.map .str) (hne : texts ≠ [])
      (hopening : (j.context.render h [j.spec.opening]).run t = .ok opening u)
      (hclosing : (j.context.render h [j.spec.closing]).run u = .ok closing v) :
      JoinRun h j separator s (.ok (opening ++ separator.intercalate texts ++ closing) v)

namespace JoinCall

section

variable {h : Host} {j : JoinCall} {i : Nat} {s t : State} {name : String} {x : Value}
  {entry : Entry} {elements : List Value}

/-- Elements that are at hand are numbered and named with their places. -/
theorem ask_of_elements? (h : Host) (hmode : j.mode = .sequence)
    (helements : j.items.elements? = some elements) (i : Nat) :
    j.ask h i = pure (elements[i]?.map (Entry.positional i)) := by
  obtain ⟨c, items, mode, spec⟩ := j
  obtain rfl : mode = .sequence := hmode
  cases items <;> simp_all [ask, Value.elements?] <;> rfl

/-- An entry that is had is numbered with its place, and has the name and element in this place. -/
theorem supplies_of_ask (hask : (j.ask h i).run s = .ok (some entry) t) :
    entry.index = i ∧ j.Supplies h i s entry.name entry.item t := by
  obtain ⟨c, items, mode, spec⟩ := j
  cases mode with
  | mapping =>
    cases items with
    | dict entries =>
      cases hentry : entries[i]? with
      | none =>
        simp only [ask, hentry] at hask
        cases hask
      | some e =>
        obtain ⟨key, value⟩ := e
        simp only [ask, hentry, Action.run_bind_eq_ok_iff, Action.run_ofExcept_eq_ok_iff,
          Action.run_pure_eq_ok_iff] at hask
        obtain ⟨name, _, ⟨hname, rfl⟩, hsome, rfl⟩ := hask
        obtain rfl := Option.some.inj hsome
        obtain rfl := Value.text_of_written hname
        exact ⟨rfl, .key rfl rfl hentry⟩
    | _ => cases hask
  | sequence =>
    cases helements : items.elements? with
    | some elements =>
      rw [ask_of_elements? h rfl helements, Action.run_pure_eq_ok_iff] at hask
      obtain ⟨hsome, rfl⟩ := hask
      obtain ⟨x, hx, rfl⟩ := Option.map_eq_some_iff.mp hsome
      exact ⟨rfl, .element rfl helements hx⟩
    | none =>
      cases items with
      | iterator id =>
        simp only [ask, Action.run_bind_eq_ok_iff, Action.run_pure_eq_ok_iff] at hask
        obtain ⟨item?, _, hdraw, hsome, rfl⟩ := hask
        obtain ⟨x, rfl, rfl⟩ := Option.map_eq_some_iff.mp hsome
        exact ⟨rfl, .drawn rfl rfl hdraw⟩
      | null | bool | int | function | applied | context | shape => cases hask
      | _ => cases helements

/-- By position the decimal place is the name. -/
theorem Supplies.name_eq (hx : j.Supplies h i s name x t) (hmode : j.mode = .sequence) :
    name = toString i := by
  cases hx with
  | key hmapping => cases hmapping.symm.trans hmode
  | element => rfl
  | drawn => rfl

/-- By key the text of the key in the place is the name. -/
theorem Supplies.exists_key (hx : j.Supplies h i s name x t) (hmode : j.mode = .mapping) :
    ∃ (entries : Entries) (key : Value), j.items = .dict entries ∧ entries[i]? = some (key, x) ∧
      name = key.text := by
  cases hx with
  | key _ hitems hentry => exact ⟨_, _, hitems, hentry, rfl⟩
  | element hsequence => cases hmode.symm.trans hsequence
  | drawn hsequence => cases hmode.symm.trans hsequence

/-- By position, elements that are at hand are supplied from their places. -/
theorem Supplies.getElem?_eq (hx : j.Supplies h i s name x t) (hmode : j.mode = .sequence)
    (helements : j.items.elements? = some elements) : elements[i]? = some x := by
  cases hx with
  | key hmapping => cases hmapping.symm.trans hmode
  | element _ helements' hx =>
    obtain rfl := Option.some.inj (helements.symm.trans helements')
    exact hx
  | drawn _ hitems =>
    rw [hitems] at helements
    cases helements

end

/-- A number of fetches is enough for a place and a state, as `enough` tells: with none left there
is no entry, and each visit leaves enough for what follows. -/
structure Bounded (h : Host) (j : JoinCall) (enough : Nat → Nat → State → Prop) : Prop where
  /-- With no fetch left there is no entry. -/
  stop : ∀ {i s}, enough 0 i s → (j.ask h i).run s = .ok none s
  /-- A visit leaves enough. -/
  step : ∀ {n i s entry u result v}, enough (n + 1) i s →
    (j.ask h i).run s = .ok (some entry) u → (j.visit h entry).run u = .ok result v →
      enough n (i + 1) v

section

variable {h : Host} {j : JoinCall} {feed : Feed} {enough : Nat → Nat → State → Prop}

theorem kept_cons (entry : Entry) (result : Value) (visited : List (Entry × Value)) :
    kept ((entry, result) :: visited) =
      (if result.isNull then [] else [result]) ++ kept visited := by
  cases hr : result.isNull <;> simp [kept, hr]

/-- With enough fetches the loop succeeds when a walk finds no entry after its last visit. -/
theorem run_collectFrom_eq_ok_iff (hfetch : ∀ i, feed.fetch i = j.ask h i)
    (hbound : j.Bounded h enough) {rounds i : Nat} {before results : List Value} {s t : State}
    (hrounds : enough rounds i s) :
    (feed.collectFrom (j.visit h) rounds i before).run s = .ok results t ↔
      ∃ visited u, j.Walk h i s visited u ∧
        (j.ask h (i + visited.length)).run u = .ok none t ∧
        results = before.reverse ++ kept visited := by
  induction rounds generalizing i before s with
  | zero =>
    -- The fetches are used up, and the bound says that a walk ends here, too.
    have hask := hbound.stop hrounds
    simp only [Feed.collectFrom]
    constructor
    · rintro ⟨⟩
      exact ⟨[], _, .nil i _, hask, (List.append_nil _).symm⟩
    · rintro ⟨visited, u, hwalk, hnone, rfl⟩
      cases hwalk with
      | nil =>
        obtain ⟨⟩ := hask.symm.trans hnone
        simp [kept, EStateM.run_pure]
      | cons hsome => cases hask.symm.trans hsome
  | succ rounds ih =>
    simp only [Feed.collectFrom, Action.run_bind_eq_ok_iff, hfetch]
    constructor
    · rintro ⟨next?, u, hask, h'⟩
      cases next? with
      | none =>
        cases h'
        exact ⟨[], _, .nil i _, hask, (List.append_nil _).symm⟩
      | some entry =>
        obtain ⟨result, v, hvisit, h'⟩ := Action.run_bind_eq_ok_iff.mp h'
        obtain ⟨visited, w, hwalk, hnone, rfl⟩ :=
          (ih (hbound.step hrounds hask hvisit)).mp h'
        refine ⟨(entry, result) :: visited, w, .cons hask hvisit hwalk, ?_, ?_⟩
        · rw [List.length_cons, ← Nat.add_assoc, Nat.add_right_comm]
          exact hnone
        · rw [kept_cons]
          cases result.isNull <;> simp
    · rintro ⟨visited, u, hwalk, hnone, rfl⟩
      cases hwalk with
      | nil => exact ⟨none, t, hnone, by simp [kept]⟩
      | @cons _ _ u v _ entry result visited hask hvisit hrest =>
        refine ⟨some entry, u, hask, Action.run_bind_eq_ok_iff.mpr ⟨result, v, hvisit, ?_⟩⟩
        refine (ih (hbound.step hrounds hask hvisit)).mpr ⟨visited, _, hrest, ?_, ?_⟩
        · rw [List.length_cons, ← Nat.add_assoc, Nat.add_right_comm] at hnone
          exact hnone
        · rw [kept_cons]
          cases result.isNull <;> simp

/-- With enough fetches the loop fails when, after some visits, an entry cannot be had or
visited. -/
theorem run_collectFrom_eq_error_iff (hfetch : ∀ i, feed.fetch i = j.ask h i)
    (hbound : j.Bounded h enough) {rounds i : Nat} {before : List Value} {s t : State} {e : Failure}
    (hrounds : enough rounds i s) :
    (feed.collectFrom (j.visit h) rounds i before).run s = .error e t ↔
      ∃ visited u, j.Walk h i s visited u ∧
        ((j.ask h (i + visited.length)).run u = .error e t ∨
          ∃ entry v, (j.ask h (i + visited.length)).run u = .ok (some entry) v ∧
            (j.visit h entry).run v = .error e t) := by
  induction rounds generalizing i before s with
  | zero =>
    have hask := hbound.stop hrounds
    simp only [Feed.collectFrom]
    constructor
    · rintro ⟨⟩
    · rintro ⟨visited, u, hwalk, hfail⟩
      cases hwalk with
      | nil =>
        rcases hfail with herror | ⟨entry, v, hsome, -⟩
        · cases hask.symm.trans herror
        · cases hask.symm.trans hsome
      | cons hsome => cases hask.symm.trans hsome
  | succ rounds ih =>
    simp only [Feed.collectFrom, Action.run_bind_eq_error_iff, hfetch]
    constructor
    · rintro (hask | ⟨next?, u, hask, h'⟩)
      · exact ⟨[], s, .nil i s, .inl hask⟩
      cases next? with
      | none => cases h'
      | some entry =>
        rcases Action.run_bind_eq_error_iff.mp h' with hvisit | ⟨result, v, hvisit, h'⟩
        · exact ⟨[], s, .nil i s, .inr ⟨entry, u, hask, hvisit⟩⟩
        · obtain ⟨visited, w, hwalk, hfail⟩ := (ih (hbound.step hrounds hask hvisit)).mp h'
          refine ⟨(entry, result) :: visited, w, .cons hask hvisit hwalk, ?_⟩
          rw [List.length_cons, ← Nat.add_assoc, Nat.add_right_comm]
          exact hfail
    · rintro ⟨visited, u, hwalk, hfail⟩
      cases hwalk with
      | nil =>
        rcases hfail with herror | ⟨entry, v, hsome, hvisit⟩
        · exact .inl herror
        · exact .inr ⟨some entry, v, hsome, Action.run_bind_eq_error_iff.mpr (.inl hvisit)⟩
      | @cons _ _ u v _ entry result visited hask hvisit hrest =>
        refine .inr ⟨some entry, u, hask,
          Action.run_bind_eq_error_iff.mpr (.inr ⟨result, v, hvisit, ?_⟩)⟩
        rw [List.length_cons, ← Nat.add_assoc, Nat.add_right_comm] at hfail
        exact (ih (hbound.step hrounds hask hvisit)).mpr ⟨visited, _, hrest, hfail⟩

end

section

variable {h : Host} {j : JoinCall}

/-- A visit fails where the call of the callback does, after the child context was made. -/
theorem run_visit_eq_error_iff {entry : Entry} {s t : State} {e : Failure} :
    (j.visit h entry).run s = .error e t ↔
      (j.spec.callback.call h ((j.spec.resolveShape j.mode).arguments
        (.context (j.context.child s.nextId entry)) (.int entry.index) (.str entry.name)
        entry.item)).run { s with nextId := s.nextId + 1 } = .error e t :=
  Iff.rfl

/-- Items that are at hand, `n` of them, are asked for at most `n` times. -/
theorem bounded_of_ask_eq_pure {n : Nat} (hask : ∀ i, n ≤ i → j.ask h i = pure none) :
    j.Bounded h fun rounds i _ => i + rounds = n where
  stop := by
    rintro i s rfl
    rw [hask i (Nat.le_refl _)]
    rfl
  step := by
    rintro n i s entry u result v rfl _ _
    exact Nat.add_right_comm i 1 n

/-- Taking an element leaves one less. -/
theorem remaining_of_draw (hh : h.Lawful) {id : Nat} {item : Value} {s t : State}
    (hdraw : (Action.draw h id).run s = .ok (some item) t) :
    id < t.iterators.size ∧ t.remaining id < s.remaining id := by
  obtain ⟨next, rest, u, hs, hforce, rfl⟩ := Action.run_draw_eq_ok_some_iff.mp hdraw
  have hid : id < s.iterators.size := by
    rcases Nat.lt_or_ge id s.iterators.size with hlt | hge
    · exact hlt
    · simp [State.iterator, Array.getElem?_eq_none hge] at hs
  have hsize := ((hh.force next).of_ok hforce).size
  have hu : id < u.iterators.size :=
    Nat.lt_of_lt_of_le (by simpa [State.setIterator] using hid) hsize
  refine ⟨by simpa [State.setIterator] using hu, ?_⟩
  simp only [State.remaining, hs, State.iterator_setIterator_self u hu, List.length_cons]
  exact Nat.lt_succ_self _

/-- A one-shot iterator is asked at most as often as elements are left of it: an element that was
taken is gone, and no callback brings it back. -/
theorem bounded_of_iterator (hh : h.Lawful) {id : Nat} (hmode : j.mode = .sequence)
    (hitems : j.items = .iterator id) : j.Bounded h fun rounds _ s => s.remaining id ≤ rounds where
  stop := by
    intro i s hs
    have hidle : s.iterator id = .idle [] := by
      cases hi : s.iterator id with
      | running => simp [State.remaining, hi] at hs
      | idle rest => simpa [State.remaining, hi] using hs
    simp only [ask, hmode, hitems]
    exact Action.run_bind_eq_ok_iff.mpr
      ⟨none, s, Action.run_draw_eq_ok_none_iff.mpr ⟨hidle, rfl⟩, rfl⟩
  step := by
    intro n i s entry u result v hs hask hvisit
    simp only [ask, hmode, hitems] at hask
    obtain ⟨item?, w, hdraw, hentry⟩ := Action.run_bind_eq_ok_iff.mp hask
    cases item? with
    | none => cases hentry
    | some item =>
      cases hentry
      obtain ⟨hid, hless⟩ := remaining_of_draw hh hdraw
      have hkeep := ((j.context.visit_advances hh _ _ _).of_ok hvisit).remaining_le hid
      omega

end

/-- The feed that the library's loop walks over gives the entries that are asked for, in the order
in which they are asked for, and its limit suffices. -/
theorem exists_feed {h : Host} (hh : h.Lawful) {j : JoinCall}
    (hwalk : j.items.isWalkable j.mode = true) (s : State) :
    ∃ (feed : Feed) (enough : Nat → Nat → State → Prop),
      (j.run h).run s = (feed.collect (j.visit h) >>= j.context.assemble h j.spec).run s ∧
        (∀ i, feed.fetch i = j.ask h i) ∧ j.Bounded h enough ∧ enough feed.limit 0 s := by
  obtain ⟨c, items, mode, spec⟩ := j
  cases mode with
  | mapping =>
    cases items with
    | dict entries =>
      refine ⟨.ofEntries entries, fun rounds i _ => i + rounds = entries.length, rfl, ?_, ?_, ?_⟩
      · intro i
        simp only [Feed.fetch_ofEntries, ask]
        cases entries[i]? with
        | none => rfl
        | some entry =>
          simp only [Option.mapM_some, Entry.keyed]
          cases entry.1.written <;> rfl
      · refine bounded_of_ask_eq_pure fun i hi => ?_
        simp only [ask, List.getElem?_eq_none hi]
      · simp
    | _ => cases hwalk
  | sequence =>
    cases he : items.elements? with
    | some elements =>
      have hask : ∀ i, ask h ⟨c, items, .sequence, spec⟩ i =
          pure (elements[i]?.map (Entry.positional i)) := ask_of_elements? h rfl he
      refine ⟨.ofElements elements, fun rounds i _ => i + rounds = elements.length, ?_, ?_, ?_, ?_⟩
      · simp only [run, Context.joinSequence, Feed.sequence_of_elements? h he, pure_bind]
        rfl
      · intro i
        rw [Feed.fetch_ofElements, hask]
      · refine bounded_of_ask_eq_pure fun i hi => ?_
        rw [hask, List.getElem?_eq_none hi, Option.map_none]
      · simp
    | none =>
      cases items with
      | iterator id =>
        exact ⟨.ofIterator h (s.remaining id) id, fun rounds _ s => s.remaining id ≤ rounds, rfl,
          fun _ => rfl, bounded_of_iterator hh rfl rfl, Nat.le_refl _⟩
      | null | bool | int | function | applied | context | shape => cases hwalk
      | _ => cases he

section

variable {h : Host} (hh : h.Lawful) {j : JoinCall} (hwalk : j.items.isWalkable j.mode = true)
include hh hwalk

/-- A join succeeds when its visits do until there is no entry left, and then the results that were
kept can be put together. -/
theorem run_eq_ok_iff {s t : State} {text : String} :
    (j.run h).run s = .ok text t ↔ ∃ visited u, j.Exhausts h s visited u ∧
      (j.context.assemble h j.spec (kept visited)).run u = .ok text t := by
  obtain ⟨feed, enough, hrun, hfetch, hbound, hlimit⟩ := exists_feed hh hwalk s
  rw [hrun, Action.run_bind_eq_ok_iff]
  simp only [Feed.collect, run_collectFrom_eq_ok_iff hfetch hbound hlimit, Nat.zero_add]
  constructor
  · rintro ⟨_, v, ⟨visited, u, hvisited, hnone, rfl⟩, hassemble⟩
    exact ⟨visited, v, ⟨u, hvisited, hnone⟩, hassemble⟩
  · rintro ⟨visited, v, ⟨u, hvisited, hnone⟩, hassemble⟩
    exact ⟨_, v, ⟨visited, u, hvisited, hnone, rfl⟩, hassemble⟩

/-- A join fails when, after some visits, an entry cannot be had or visited, or when there is no
entry left and the results that were kept cannot be put together. -/
theorem run_eq_error_iff {s t : State} {e : Failure} :
    (j.run h).run s = .error e t ↔
      (∃ visited u, j.Walk h 0 s visited u ∧ (j.ask h visited.length).run u = .error e t) ∨
      (∃ visited entry u, j.Reaches h s visited entry u ∧
        (j.visit h entry).run u = .error e t) ∨
      ∃ visited u, j.Exhausts h s visited u ∧
        (j.context.assemble h j.spec (kept visited)).run u = .error e t := by
  obtain ⟨feed, enough, hrun, hfetch, hbound, hlimit⟩ := exists_feed hh hwalk s
  rw [hrun, Action.run_bind_eq_error_iff]
  simp only [Feed.collect, run_collectFrom_eq_ok_iff hfetch hbound hlimit,
    run_collectFrom_eq_error_iff hfetch hbound hlimit, Nat.zero_add]
  constructor
  · rintro (⟨visited, u, hvisited, hask | ⟨entry, v, hask, hvisit⟩⟩ |
      ⟨_, v, ⟨visited, u, hvisited, hnone, rfl⟩, hassemble⟩)
    · exact .inl ⟨visited, u, hvisited, hask⟩
    · exact .inr (.inl ⟨visited, entry, v, ⟨u, hvisited, hask⟩, hvisit⟩)
    · exact .inr (.inr ⟨visited, v, ⟨u, hvisited, hnone⟩, hassemble⟩)
  · rintro (⟨visited, u, hvisited, hask⟩ | ⟨visited, entry, v, ⟨u, hvisited, hask⟩, hvisit⟩ |
      ⟨visited, v, ⟨u, hvisited, hnone⟩, hassemble⟩)
    · exact .inl ⟨visited, u, hvisited, .inl hask⟩
    · exact .inl ⟨visited, u, hvisited, .inr ⟨entry, v, hask, hvisit⟩⟩
    · exact .inr ⟨_, v, ⟨visited, u, hvisited, hnone, rfl⟩, hassemble⟩

end

end JoinCall

namespace Context

section

variable {h : Host} {c : Context} {spec : JoinSpec} {results : List Value} {s t : State}

/-- Without results there is nothing to put together; with some, the opening is rendered, then they
are joined, then the closing is rendered. -/
theorem run_assemble_eq_ok_iff {text : String} :
    (c.assemble h spec results).run s = .ok text t ↔
      (results = [] ∧ text = "" ∧ t = s) ∨
      (results ≠ [] ∧ ∃ opening u body closing, (c.render h [spec.opening]).run s = .ok opening u ∧
        joinResults spec.separator results = .ok body ∧
        (c.render h [spec.closing]).run u = .ok closing t ∧ text = opening ++ body ++ closing) := by
  cases results with
  | nil => simp [assemble, eq_comm]
  | cons result results =>
    simp only [assemble, List.isEmpty_cons, Bool.false_eq_true, ite_false,
      Action.run_bind_eq_ok_iff, Action.run_ofExcept_eq_ok_iff, Action.run_pure_eq_ok_iff]
    constructor
    · rintro ⟨opening, u, hopening, body, _, ⟨hbody, rfl⟩, closing, v, hclosing, rfl, rfl⟩
      exact .inr ⟨List.cons_ne_nil _ _, opening, u, body, closing, hopening, hbody, hclosing, rfl⟩
    · rintro (⟨h', -⟩ | ⟨-, opening, u, body, closing, hopening, hbody, hclosing, rfl⟩)
      · cases h'
      · exact ⟨opening, u, hopening, body, u, ⟨hbody, rfl⟩, closing, t, hclosing, rfl, rfl⟩

theorem run_assemble_eq_error_iff {e : Failure} :
    (c.assemble h spec results).run s = .error e t ↔
      results ≠ [] ∧ ((c.render h [spec.opening]).run s = .error e t ∨
        ∃ opening u, (c.render h [spec.opening]).run s = .ok opening u ∧
          ((joinResults spec.separator results = .error e ∧ t = u) ∨
            ∃ body, joinResults spec.separator results = .ok body ∧
              (c.render h [spec.closing]).run u = .error e t)) := by
  cases results with
  | nil => simp [assemble]
  | cons result results =>
    simp only [assemble, List.isEmpty_cons, Bool.false_eq_true, ite_false,
      Action.run_bind_eq_error_iff, Action.run_ofExcept_eq_ok_iff,
      Action.run_ofExcept_eq_error_iff, ne_eq, reduceCtorEq, not_false_eq_true, true_and]
    refine or_congr_right (exists_congr fun opening => exists_congr fun u =>
      and_congr_right fun _ => ?_)
    constructor
    · rintro (⟨hbody, rfl⟩ | ⟨body, _, ⟨hbody, rfl⟩, hclosing | ⟨_, _, _, ⟨⟩⟩⟩)
      · exact .inl ⟨hbody, rfl⟩
      · exact .inr ⟨body, hbody, hclosing⟩
    · rintro (⟨hbody, rfl⟩ | ⟨body, hbody, hclosing⟩)
      · exact .inl ⟨hbody, rfl⟩
      · exact .inr ⟨body, u, ⟨hbody, rfl⟩, .inl hclosing⟩

end

end Context

/-- The first result that a test refuses is named with the number of those before it. -/
theorem firstRefused?_append_cons {accepts : Value → Bool} {before : List Value} {result : Value}
    (hbefore : ∀ r ∈ before, accepts r = true) (hresult : accepts result = false)
    (rest : List Value) :
    firstRefused? accepts (before ++ result :: rest) = some (result, before.length) := by
  have hnone : before.zipIdx.find? (fun r => !accepts r.1) = none := by
    simp only [List.find?_eq_none]
    intro r hr
    simp [hbefore r.1 (List.fst_mem_of_mem_zipIdx hr)]
  simp [firstRefused?, List.zipIdx_append, List.find?_append, hnone, hresult]

/-- Nothing is refused where a test accepts all results. -/
theorem firstRefused?_eq_none {accepts : Value → Bool} {results : List Value}
    (hresults : ∀ r ∈ results, accepts r = true) : firstRefused? accepts results = none := by
  simp only [firstRefused?, List.find?_eq_none]
  intro r hr
  simp [hresults r.1 (List.fst_mem_of_mem_zipIdx hr)]

/-- Texts are joined with a text between them. -/
theorem joinResults_texts (separator : String) (texts : List String) :
    joinResults (.str separator) (texts.map .str) = .ok (separator.intercalate texts) := by
  have hnone : firstRefused? (fun r => r.toText?.isSome) (texts.map .str) = none :=
    firstRefused?_eq_none (by simp [Value.toText?])
  simp only [joinResults, hnone, List.filterMap_map]
  congr 2
  exact List.filterMap_some

/-- The first result that is no text is refused. -/
theorem joinResults_refused (separator : String) (texts : List String) {result : Value}
    (hresult : result.toText? = none) (rest : List Value) :
    joinResults (.str separator) (texts.map .str ++ result :: rest) =
      .error (.notJoinableText texts.length result) := by
  have hfirst : firstRefused? (fun r => r.toText?.isSome) (texts.map .str ++ result :: rest) =
      some (result, (texts.map Value.str).length) :=
    firstRefused?_append_cons (by simp [Value.toText?]) (by simp [hresult]) rest
  simp only [joinResults, hfirst, List.length_map]

/-- Results are all texts, or there is a first that is not. -/
theorem texts_or_refused (results : List Value) :
    (∃ texts : List String, results = texts.map .str) ∨
      ∃ (texts : List String) (result : Value) (rest : List Value),
        results = texts.map .str ++ result :: rest ∧ result.toText? = none := by
  induction results with
  | nil => exact .inl ⟨[], rfl⟩
  | cons result results ih =>
    cases hr : result.toText? with
    | none => exact .inr ⟨[], result, results, rfl, hr⟩
    | some text =>
      obtain rfl : result = .str text := by
        cases result <;> simp_all [Value.toText?]
      rcases ih with ⟨texts, rfl⟩ | ⟨texts, other, rest, rfl, hother⟩
      · exact .inl ⟨text :: texts, rfl⟩
      · exact .inr ⟨text :: texts, other, rest, rfl, hother⟩

/-- How a join that is not told its mode walks over items. -/
def Value.joinMode : Value → Mode
  | .dict _ => .mapping
  | _ => .sequence

/-- A join that is not told its mode is the one in the mode that its items decide. -/
theorem Context.join_eq_run (h : Host) (c : Context) {items : Value}
    (hitems : items.isNull = false) (spec : JoinSpec) :
    c.join h items spec = JoinCall.run h ⟨c, items, items.joinMode, spec⟩ := by
  cases items with
  | null => cases hitems
  | _ => rfl

section

variable {h : Host} (hh : h.Lawful)
include hh

/-- A join with a text as separator runs in the order of `JoinRun`, and to its outcome. -/
theorem JoinCall.run_eq_iff_joinRun {j : JoinCall} (hwalk : j.items.isWalkable j.mode = true)
    {separator : String} (hsep : j.spec.separator = .str separator) {s : State}
    {r : EStateM.Result Failure State String} :
    (j.run h).run s = r ↔ JoinRun h j separator s r := by
  constructor
  · rintro rfl
    cases hr : (j.run h).run s with
    | ok text t =>
      obtain ⟨visited, u, hend, hassemble⟩ := (run_eq_ok_iff hh hwalk).mp hr
      rcases Context.run_assemble_eq_ok_iff.mp hassemble with ⟨hkept, rfl, rfl⟩ |
        ⟨hkept, opening, v, body, closing, hopening, hbody, hclosing, rfl⟩
      · exact .nothing hend hkept
      · rw [hsep] at hbody
        rcases texts_or_refused (kept visited) with ⟨texts, he⟩ | ⟨texts, result, rest, he, hresult⟩
        · rw [he, joinResults_texts] at hbody
          cases hbody
          exact .joined hend he (fun hnil => hkept (by rw [he, hnil, List.map_nil])) hopening
            hclosing
        · rw [he, joinResults_refused separator texts hresult] at hbody
          cases hbody
    | error e t =>
      rcases (run_eq_error_iff hh hwalk).mp hr with ⟨visited, u, hvisited, hask⟩ |
        ⟨visited, entry, u, hreach, hvisit⟩ | ⟨visited, u, hend, hassemble⟩
      · exact .entryFails hvisited hask
      · exact .visitFails hreach hvisit
      · obtain ⟨hkept, hfail⟩ := Context.run_assemble_eq_error_iff.mp hassemble
        rcases hfail with hopening | ⟨opening, v, hopening, ⟨hbody, rfl⟩ | ⟨body, hbody, hclosing⟩⟩
        · exact .openingFails hend hkept hopening
        all_goals
          rw [hsep] at hbody
          rcases texts_or_refused (kept visited) with
            ⟨texts, he⟩ | ⟨texts, result, rest, he, hresult⟩
        · rw [he, joinResults_texts] at hbody
          cases hbody
        · rw [he, joinResults_refused separator texts hresult] at hbody
          cases hbody
          exact .unjoinable hend he hresult hopening
        · exact .closingFails hend he (fun hnil => hkept (by rw [he, hnil, List.map_nil])) hopening
            hclosing
        · rw [he, joinResults_refused separator texts hresult] at hbody
          cases hbody
  · intro hrun
    cases hrun with
    | entryFails hvisited hask =>
      exact (run_eq_error_iff hh hwalk).mpr (.inl ⟨_, _, hvisited, hask⟩)
    | visitFails hreach hvisit =>
      exact (run_eq_error_iff hh hwalk).mpr (.inr (.inl ⟨_, _, _, hreach, hvisit⟩))
    | nothing hend hkept =>
      refine (run_eq_ok_iff hh hwalk).mpr ⟨_, _, hend, ?_⟩
      exact Context.run_assemble_eq_ok_iff.mpr (.inl ⟨hkept, rfl, rfl⟩)
    | openingFails hend hkept hopening =>
      refine (run_eq_error_iff hh hwalk).mpr (.inr (.inr ⟨_, _, hend, ?_⟩))
      exact Context.run_assemble_eq_error_iff.mpr ⟨hkept, .inl hopening⟩
    | unjoinable hend hkept hresult hopening =>
      refine (run_eq_error_iff hh hwalk).mpr (.inr (.inr ⟨_, _, hend, ?_⟩))
      refine Context.run_assemble_eq_error_iff.mpr ⟨by simp [hkept], .inr ⟨_, _, hopening, .inl ?_⟩⟩
      exact ⟨by rw [hsep, hkept, joinResults_refused separator _ hresult], rfl⟩
    | @closingFails visited _ _ _ _ texts _ hend hkept hne hopening hclosing =>
      refine (run_eq_error_iff hh hwalk).mpr (.inr (.inr ⟨_, _, hend, ?_⟩))
      have hbody : joinResults j.spec.separator (kept visited) =
          .ok (separator.intercalate texts) := by
        rw [hsep, hkept, joinResults_texts]
      exact Context.run_assemble_eq_error_iff.mpr
        ⟨by simp [hkept, hne], .inr ⟨_, _, hopening, .inr ⟨_, hbody, hclosing⟩⟩⟩
    | joined hend hkept hne hopening hclosing =>
      refine (run_eq_ok_iff hh hwalk).mpr ⟨_, _, hend, ?_⟩
      refine Context.run_assemble_eq_ok_iff.mpr
        (.inr ⟨by simp [hkept, hne], _, _, _, _, hopening, ?_, hclosing, rfl⟩)
      rw [hsep, hkept, joinResults_texts]

end

/-- Joins by position, by key, and in the mode that the items decide all run in the order of
`JoinRun`: each entry is had and visited before the next is asked for, and only after the last one
opening and closing are rendered, if some result was kept. -/
theorem join_runs_in_order {h : Host} (hh : h.Lawful) (c : Context) (items : Value)
    (spec : JoinSpec) {separator : String} (hsep : spec.separator = .str separator)
    (hitems : items.isWalkable .sequence = true) (s : State)
    (r : EStateM.Result Failure State String) :
    ((c.join h items spec).run s = r ↔ JoinRun h ⟨c, items, items.joinMode, spec⟩ separator s r) ∧
    ((c.joinSequence h items spec).run s = r ↔
      JoinRun h ⟨c, items, .sequence, spec⟩ separator s r) ∧
    (items.isWalkable .mapping = true →
      ((c.joinMapping h items spec).run s = r ↔
        JoinRun h ⟨c, items, .mapping, spec⟩ separator s r)) := by
  have hrun : ∀ mode, items.isWalkable mode = true →
      ((JoinCall.run h ⟨c, items, mode, spec⟩).run s = r ↔
        JoinRun h ⟨c, items, mode, spec⟩ separator s r) :=
    fun mode hwalk => JoinCall.run_eq_iff_joinRun hh hwalk hsep
  refine ⟨?_, hrun .sequence hitems, hrun .mapping⟩
  cases items with
  | dict entries => exact hrun .mapping rfl
  | null => cases hitems
  | _ => exact hrun .sequence hitems

/-- An element that logs a text when it is evaluated, and is this text. -/
def loggedElement (text : String) : Suspended :=
  ⟨.apply .last [.one (.apply .log [.one (.str text)]), .one (.str text)], []⟩

/-- A callback that logs a mark and gives back the last of its arguments, an empty text being
null. -/
def loggingCallback : Value :=
  .function ⟨0, "item", none, .apply .last [.one (.apply .log [.one (.str "item")]),
    .one (.branch (.argument (-1) 0) (.argument (-1) 0) .null)], []⟩

/-- A state with one iterator that has the given elements left. -/
def iteratorState (elements : List Suspended) (log : Array String) (nextId : Nat) : State :=
  ⟨log, #[.idle elements], nextId, []⟩

/-- A join over the elements of an iterator, the second of which is left out. -/
theorem join_runs_in_order_of_iterator :
    JoinRun (Host.ofDepth 2) ⟨.ofData 0 .null, .iterator 0, .sequence,
        ⟨.str ",", loggingCallback, .str "<", .str ">", .null⟩⟩ ","
      (iteratorState [loggedElement "a", loggedElement "", loggedElement "b"] #[] 1)
      (.ok "<a,b>" (iteratorState [] #["a", "item", "", "item", "b", "item"] 4)) :=
  (join_runs_in_order (Host.ofDepth_lawful 2) (.ofData 0 .null) (.iterator 0)
    ⟨.str ",", loggingCallback, .str "<", .str ">", .null⟩ rfl rfl _ _).1.mp <| by
      simp only [Context.join, Context.joinSequence, Context.joinFeed, Context.assemble,
        Context.render_eq_renderLeaves]
      rfl

end Stencil
