import Stencil.Proofs.Trace
import Stencil.Script.Eval

/-!
# Addresses

A join over the data of its own context hands each part of the data to its callback in a context of
its own, with index and name of the part. In joins nested in this way, the indices and names along
the chain of contexts are the address of the data at its end: followed from the data that the
outermost join walks over, they lead there.
-/

namespace Stencil

namespace Entries

/-- No two keys are equal. -/
def Distinct (entries : Entries) : Prop :=
  entries.Pairwise fun e f => e.1.same f.1 = false

/-- A dictionary that is written to has the keys that it had and the one that is written. -/
theorem key_of_mem_insert {entries : Entries} {key value : Value} {e : Value × Value}
    (he : e ∈ entries.insert key value) : e.1 = key ∨ ∃ f ∈ entries, e.1 = f.1 := by
  induction entries with
  | nil =>
    obtain rfl := List.mem_singleton.mp he
    exact .inl rfl
  | cons f entries ih =>
    rw [insert] at he
    split at he
    · rcases List.mem_cons.mp he with rfl | he
      · exact .inr ⟨f, List.mem_cons_self, rfl⟩
      · exact .inr ⟨e, List.mem_cons_of_mem _ he, rfl⟩
    · rcases List.mem_cons.mp he with rfl | he
      · exact .inr ⟨f, List.mem_cons_self, rfl⟩
      · exact (ih he).imp_right fun ⟨f, hf, hef⟩ => ⟨f, List.mem_cons_of_mem _ hf, hef⟩

/-- Writing to a dictionary keeps its keys distinct. -/
theorem Distinct.insert {entries : Entries} (h : entries.Distinct) (key value : Value) :
    (entries.insert key value).Distinct := by
  induction entries with
  | nil => exact List.pairwise_singleton _ _
  | cons f entries ih =>
    obtain ⟨hf, hentries⟩ := List.pairwise_cons.mp h
    rw [Entries.insert]
    split
    · exact List.pairwise_cons.mpr ⟨hf, hentries⟩
    · rename_i hne
      refine List.pairwise_cons.mpr ⟨fun e he => ?_, ih hentries⟩
      rcases key_of_mem_insert he with rfl | ⟨g, hg, heg⟩
      · exact Bool.eq_false_iff.mpr hne
      · rw [heg]
        exact hf g hg

/-- Among distinct keys, each is found in its own place. -/
theorem Distinct.find {entries : Entries} (h : entries.Distinct) {i : Nat} {e : Value × Value}
    (hi : entries[i]? = some e) :
    entries.get? e.1 = some e.2 ∧ entries.findIdx? (fun f => f.1.same e.1) = some i := by
  induction entries generalizing i with
  | nil => cases hi
  | cons f entries ih =>
    obtain ⟨hf, hentries⟩ := List.pairwise_cons.mp h
    cases i with
    | zero =>
      obtain rfl := Option.some.inj hi
      simp [get?, List.findIdx?_cons, f.1.same_self]
    | succ i =>
      have hmem : e ∈ entries := List.mem_of_getElem? hi
      obtain ⟨hget, hplace⟩ := ih hentries hi
      rw [get?] at hget ⊢
      rw [List.find?_cons_of_neg (by simp [hf e hmem]), List.findIdx?_cons, hf e hmem, hplace]
      exact ⟨hget, rfl⟩

end Entries

/-- The dictionaries that scripts write have distinct keys. -/
theorem distinct_of_evalEntries {h : Host} {scope : List (List Value)}
    {written : List (Expr × Expr)} {entries result : Entries} {s t : State}
    (hentries : entries.Distinct)
    (hrun : (evalEntries h scope written entries).run s = .ok result t) : result.Distinct := by
  induction written generalizing entries s with
  | nil =>
    rw [evalEntries] at hrun
    obtain ⟨rfl, -⟩ := Action.run_pure_eq_ok_iff.mp hrun
    exact hentries
  | cons kv written ih =>
    rw [evalEntries] at hrun
    obtain ⟨key, u, -, hrun⟩ := Action.run_bind_eq_ok_iff.mp hrun
    obtain ⟨value, v, -, hrun⟩ := Action.run_bind_eq_ok_iff.mp hrun
    cases hpart : key.unhashablePart? with
    | some part =>
      rw [hpart] at hrun
      cases hrun
    | none =>
      rw [hpart] at hrun
      exact ih (hentries.insert key value) hrun

namespace Value

/-- Data whose parts have addresses: what is walked over by position with its elements at hand, and
dictionaries all of whose keys are texts. -/
inductive IsAddressed : Value → Prop
  | list (items : List Value) : IsAddressed (.list items)
  | tuple (items : List Value) : IsAddressed (.tuple items)
  | str (s : String) : IsAddressed (.str s)
  | range (p : Progression) : IsAddressed (.range p)
  | dict {entries : Entries} (hdistinct : entries.Distinct)
      (hkeys : ∀ e ∈ entries, ∃ key, e.1 = .str key) : IsAddressed (.dict entries)

/-- The part of a value with an index and a name: that under the name in a dictionary, and else the
element whose number is the index. -/
def part? (v index name : Value) : Option Value :=
  match v, index with
  | .dict entries, _ => Entries.get? entries name
  | v, .int (.ofNat i) => v.elements?.bind fun elements => elements[i]?
  | _, _ => none

/-- What is found in a value by going from part to part. -/
def follow? (v : Value) (path : List (Value × Value)) : Option Value :=
  path.foldlM (fun v step => v.part? step.1 step.2) v

theorem follow?_append_singleton {v w : Value} {path : List (Value × Value)}
    (h : v.follow? path = some w) (index name : Value) :
    v.follow? (path ++ [(index, name)]) = w.part? index name := by
  rw [follow?] at h ⊢
  rw [List.foldlM_append, h]
  simp

end Value

/-- The entry that a join over addressed data asks for has index and name of its element, and in a
dictionary the index is the place of the key. -/
theorem JoinCall.part?_of_ask {h : Host} {c : Context} {items : Value} {spec : JoinSpec} {i : Nat}
    {s t : State} {entry : Entry} (hitems : items.IsAddressed)
    (hask : (JoinCall.ask h ⟨c, items, items.joinMode, spec⟩ i).run s = .ok (some entry) t) :
    items.part? (.int entry.index) (.str entry.name) = some entry.item ∧
      ∀ entries, items = .dict entries →
        entries.findIdx? (fun e => e.1.same (.str entry.name)) = some entry.index := by
  obtain ⟨hindex, hsupplies⟩ := supplies_of_ask hask
  have hpositional : items.joinMode = .sequence → ∀ elements : List Value,
      items.elements? = some elements →
        (items.elements?.bind fun elements => elements[entry.index]?) = some entry.item := by
    intro hmode elements helements
    rw [helements, hindex]
    exact hsupplies.getElem?_eq hmode helements
  cases hitems with
  | list elements => exact ⟨hpositional rfl elements rfl, fun _ => nofun⟩
  | tuple elements => exact ⟨hpositional rfl elements rfl, fun _ => nofun⟩
  | str text => exact ⟨hpositional rfl _ rfl, fun _ => nofun⟩
  | range p => exact ⟨hpositional rfl _ rfl, fun _ => nofun⟩
  | @dict entries hdistinct hkeys =>
    obtain ⟨entries', key, hentries, hentry, hname⟩ := hsupplies.exists_key rfl
    obtain rfl : entries = entries' := Value.dict.inj hentries
    obtain ⟨text, rfl⟩ : ∃ text, key = .str text := hkeys _ (List.mem_of_getElem? hentry)
    obtain ⟨hget, hplace⟩ := hdistinct.find hentry
    rw [hname, hindex]
    refine ⟨hget, ?_⟩
    rintro _ ⟨⟩
    exact hplace

namespace Context

/-- A context and those above it, nearest first. -/
def upward : Context → List Context
  | ⟨id, data, none, index, name, depth⟩ => [⟨id, data, none, index, name, depth⟩]
  | ⟨id, data, some p, index, name, depth⟩ => ⟨id, data, some p, index, name, depth⟩ :: p.upward

theorem upward_child (id : Nat) (c : Context) (entry : Entry) :
    (c.child id entry).upward = c.child id entry :: c.upward := rfl

/-- A join over the data of a context gives another context to its callback: at a visit that the
join reaches, this is the first of the arguments, and the callback is called with them. -/
inductive Gives (h : Host) (c inner : Context) : Prop
  | visit {spec : JoinSpec} {s : State} {visited : List (Entry × Value)} {v : JoinCall.Visit}
      {others : List Value}
      (hreach : JoinCall.Reaches h ⟨c, c.data, c.data.joinMode, spec⟩ s visited v.entry v.before)
      (harguments : JoinCall.arguments ⟨c, c.data, c.data.joinMode, spec⟩ v =
        .context inner :: others)
      (hcall : (JoinCall.visit h ⟨c, c.data, c.data.joinMode, spec⟩ v.entry).run v.before =
        (spec.callback.call h (.context inner :: others)).run
          { v.before with nextId := v.before.nextId + 1 })

/-- A nest of joins: `k` of them, the first called on the outermost context and each other one on
the context that the callback of the one around it was given, each over the data of the context that
it is called on. The callback may have visited any entries before. -/
inductive Nest (h : Host) (outermost : Context) : Nat → Context → Prop
  | start : Nest h outermost 0 outermost
  | join {k : Nat} {c inner : Context} (hc : Nest h outermost k c) (hdata : c.data.IsAddressed)
      (hgives : c.Gives h inner) : Nest h outermost (k + 1) inner

section

variable {h : Host} {c inner : Context}

/-- Whatever the shape, the child context is the first argument. -/
theorem exists_arguments_eq (j : JoinCall) (v : JoinCall.Visit) :
    ∃ others, j.arguments v = .context (j.context.child v.before.nextId v.entry) :: others := by
  rw [JoinCall.arguments]
  cases j.spec.resolveShape j.mode <;> exact ⟨_, rfl⟩

/-- At every visit that is reached, the child context is given to the callback. -/
theorem gives_child {spec : JoinSpec} {s : State} {visited : List (Entry × Value)}
    {v : JoinCall.Visit}
    (hreach : JoinCall.Reaches h ⟨c, c.data, c.data.joinMode, spec⟩ s visited v.entry v.before) :
    c.Gives h (c.child v.before.nextId v.entry) := by
  obtain ⟨others, harguments⟩ :=
    exists_arguments_eq ⟨c, c.data, c.data.joinMode, spec⟩ v
  refine .visit hreach harguments ?_
  rw [← harguments]
  exact JoinCall.run_visit v

/-- No other context is given to it. -/
theorem Gives.exists_child (hgives : c.Gives h inner) :
    ∃ (spec : JoinSpec) (i : Nat) (s : State) (v : JoinCall.Visit),
      (JoinCall.ask h ⟨c, c.data, c.data.joinMode, spec⟩ i).run s = .ok (some v.entry) v.before ∧
        inner = c.child v.before.nextId v.entry := by
  cases hgives with
  | @visit spec s visited v others hreach harguments hcall =>
    obtain ⟨u, -, hask⟩ := hreach
    obtain ⟨others', hchild⟩ := exists_arguments_eq ⟨c, c.data, c.data.joinMode, spec⟩ v
    rw [hchild] at harguments
    exact ⟨spec, visited.length, u, v, hask, (Value.context.inj (List.cons.inj harguments).1).symm⟩

end

/-- A table whose second row holds two texts. -/
def table : Value := .dict [(.str "head", .null), (.str "rows", .list [.str "x", .str "yz"])]

/-- A join whose callback gives back the context that it is given, but null for empty data. -/
def contextJoin : JoinSpec :=
  ⟨.str ",", .function ⟨0, "self", none, .branch (.argument 1 0) (.argument 0 0) .null, []⟩,
    .null, .null, .null⟩

/-- The context that the callback of a join over the table is given for the rows. -/
def tableRows : Context :=
  (ofData 1 table).child 3 ⟨1, "rows", .list [.str "x", .str "yz"]⟩

/-- The one that the callback of a join over the rows is given for the second row. -/
def tableRow : Context := tableRows.child 5 ⟨1, "1", .str "yz"⟩

/-- The one that the callback of a join over the second row is given for the second character. -/
def tableCharacter : Context := tableRow.child 7 ⟨1, "1", .str "z"⟩

end Context

end Stencil
