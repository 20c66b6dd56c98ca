import Mathlib.Data.List.Nodup
import Stencil.Proofs.Address
import Stencil.Proofs.Trace

/-!
# Numbers and names of entries

A join numbers its entries from zero, whether their results are kept or not, and names each by its
number or by its key. The callback is called with a child context that holds data, number and name
of its entry, one level below the context of the join, and what it is given besides are these three
or some of them, as its shape says. Names tell entries apart: numbers because decimal numerals do,
and keys because those of a dictionary are distinct, if they are texts.
-/

namespace Stencil

namespace JoinCall

/-- If it is walked over by key, the keys are texts, and no two of them are the same. -/
def HasTextKeys (j : JoinCall) : Prop :=
  j.mode = .mapping → ∀ entries : Entries, j.items = .dict entries →
    entries.Distinct ∧ ∀ e ∈ entries, ∃ key, e.1 = .str key

/-- The context that is made for a visit. -/
def childOf (j : JoinCall) (v : Visit) : Context :=
  j.context.child v.before.nextId v.entry

/-- The argument lists: the child context first, and then its index, name and data, or those of them
that the shape selects. -/
inductive Passes (child : Context) : Shape → List Value → Prop
  | indexName : Passes child .indexName [.context child, child.index, child.name, child.data]
  | index : Passes child .index [.context child, child.index, child.data]
  | name : Passes child .name [.context child, child.name, child.data]
  | bare : Passes child .bare [.context child, child.data]

/-- What the visit in place `k` is, after those that are given. -/
structure IsCall (h : Host) (j : JoinCall) (s : State) (visited : List (Visit × Value)) (k : Nat)
    (v : Visit) : Prop where
  /-- The callback is called with the child, and with what the shape selects of its attributes. -/
  call : ∃ arguments, Passes (j.childOf v) (j.spec.resolveShape j.mode) arguments ∧
    (j.visit h v.entry).run v.before = (j.spec.callback.call h arguments).run
      { v.before with nextId := v.before.nextId + 1 }
  /-- The child is derived from the context of the join. -/
  parent : (j.childOf v).parent = some j.context
  /-- The child is one level below. -/
  depth : (j.childOf v).depth = j.context.depth + 1
  /-- The index counts all visits. -/
  index : (j.childOf v).index = .int k
  /-- Name and data are those in the place, asked for after all visits before. -/
  supplied : ∃ u name, j.Walk h 0 s ((visited.take k).map fun w => (w.1.entry, w.2)) u ∧
    j.Supplies h k u name (j.childOf v).data v.before ∧ (j.childOf v).name = .str name

section

variable {h : Host} {j : JoinCall} {k l : Nat} {s t u w : State} {name : String} {x y : Value}
  {visited : List (Visit × Value)} {ending : Ending} {v : Visit}

/-- A name is found in one place only: by position always, and by key if the keys are distinct
texts. -/
theorem Supplies.place_eq (hkeys : j.HasTextKeys) (hx : j.Supplies h k s name x t)
    (hy : j.Supplies h l u name y w) : k = l := by
  cases hmode : j.mode with
  | sequence =>
    have hnames : toString k = toString l := (hx.name_eq hmode).symm.trans (hy.name_eq hmode)
    -- A number is read back from its digits.
    have hread := congrArg (fun text => Nat.ofDigitChars 10 text.toList 0) hnames
    simpa using hread
  | mapping =>
    obtain ⟨entries, a, hitems, ha, hname⟩ := hx.exists_key hmode
    obtain ⟨entries', b, hitems', hb, hname'⟩ := hy.exists_key hmode
    obtain rfl : entries = entries' := Value.dict.inj (hitems.symm.trans hitems')
    obtain ⟨hdistinct, htexts⟩ := hkeys hmode entries hitems
    obtain ⟨text, rfl⟩ : ∃ text, a = .str text := htexts _ (List.mem_of_getElem? ha)
    obtain ⟨text', rfl⟩ : ∃ text, b = .str text := htexts _ (List.mem_of_getElem? hb)
    obtain rfl : text = text' := hname.symm.trans hname'
    have hplace := (hdistinct.find ha).2.symm.trans (hdistinct.find hb).2
    exact Option.some.inj hplace

/-- The arguments at a visit are those that the shape passes of the child. -/
theorem passes_arguments (j : JoinCall) (v : Visit) :
    Passes (j.childOf v) (j.spec.resolveShape j.mode) (j.arguments v) := by
  rw [arguments]
  cases j.spec.resolveShape j.mode with
  | indexName => exact .indexName
  | index => exact .index
  | name => exact .name
  | bare => exact .bare

/-- The visits of a join are calls, each in its place. -/
theorem Trace.isCall (htrace : j.Trace h 0 s visited ending)
    (hv : (calls visited ending)[k]? = some v) : j.IsCall h s visited k v := by
  obtain ⟨u, hwalk, hask⟩ := htrace.reaches hv
  rw [Nat.zero_add] at hask
  obtain ⟨hindex, hsupplies⟩ := supplies_of_ask hask
  refine ⟨⟨_, j.passes_arguments v, run_visit v⟩, rfl, rfl, ?_, u, v.entry.name, hwalk, hsupplies,
    rfl⟩
  show Value.int v.entry.index = .int k
  rw [hindex]

/-- Where a name is found in one place only, no two children have one name. -/
theorem Trace.nodup_names (hkeys : j.HasTextKeys)
    (htrace : j.Trace h 0 s visited ending) :
    ((calls visited ending).map fun v => (j.childOf v).name).Nodup := by
  rw [List.nodup_iff_getElem?_ne_getElem?]
  intro k l hkl hl hnames
  rw [List.length_map] at hl
  have hk : k < (calls visited ending).length := by omega
  rw [List.getElem?_map, List.getElem?_map, List.getElem?_eq_getElem hk,
    List.getElem?_eq_getElem hl] at hnames
  obtain ⟨_, name, -, hx, hname⟩ := (htrace.isCall (List.getElem?_eq_getElem hk)).supplied
  obtain ⟨_, other, -, hy, hother⟩ := (htrace.isCall (List.getElem?_eq_getElem hl)).supplied
  have hsame : Value.str name = .str other := by
    rw [← hname, ← hother]
    exact Option.some.inj hnames
  obtain rfl := Value.str.inj hsame
  have hplace := hx.place_eq hkeys hy
  omega

end

end JoinCall

open JoinCall in
/-- Whatever a join walks over, and whatever comes of its visits, the callback is called in every
place with a child of the context of the join, which is numbered with the place, named by the place
or the key, and holds the element; the other arguments are the attributes of this child that the
shape selects. The shape is the one that is chosen, or the one that is read off the callback for the
mode in which the join walks. Unless keys are not texts, the children all have different names. -/
theorem callbacks_get_numbered_children {h : Host} (hh : h.Lawful) {j : JoinCall}
    (hwalk : j.items.isWalkable j.mode = true) (s : State) :
    (∃ visited ending, j.Trace h 0 s visited ending ∧
      (j.run h).run s = ending.outcome h j (results visited) ∧
      (∀ k v, (calls visited ending)[k]? = some v → j.IsCall h s visited k v) ∧
      (j.HasTextKeys → ((calls visited ending).map fun v => (j.childOf v).name).Nodup)) ∧
    j.spec.resolveShape j.mode =
      match j.spec.shape with
      | .null => j.spec.callback.detectShape j.mode
      | .shape shape => shape
      | _ => .bare := by
  constructor
  · obtain ⟨visited, ending, htrace, hrun⟩ := exists_trace hh hwalk s
    refine ⟨visited, ending, htrace, hrun, fun k v hv => htrace.isCall hv, fun hkeys => ?_⟩
    exact htrace.nodup_names hkeys
  · unfold JoinSpec.resolveShape
    cases j.spec.shape <;> rfl

/-- A callback of three arguments that gives back the second, or null where the third is empty. -/
def labelOfContent : Value :=
  .function ⟨0, "item", some [⟨"context", .positional, false⟩, ⟨"label", .positional, false⟩,
    ⟨"data", .positional, false⟩], .branch (.argument 2 0) (.argument 1 0) .null, []⟩

/-- A callback that takes any arguments and tells the types of the one behind the context and of the
last but one. -/
def argumentTypes : Value :=
  .function ⟨0, "types", none, .apply .concatenate
    [.one (.apply .typeName [.one (.argument 1 0)]), .one (.str " "),
      .one (.apply .typeName [.one (.argument (-2) 0)])], []⟩

/-- A join by key over two texts, the first of which is empty. -/
def labelsJoin (callback shape : Value) : JoinCall :=
  .overEntries (.ofData 1 .null) [(.str "x", .str ""), (.str "y", .str "b")]
    ⟨.str ",", callback, .null, .null, shape⟩

/-- The visits of such a join, with their results. -/
def labelsVisits (result result' : Value) : List (JoinCall.Visit × Value) :=
  [(⟨⟨0, "x", .str ""⟩, ⟨#[], #[], 2, []⟩⟩, result),
    (⟨⟨1, "y", .str "b"⟩, ⟨#[], #[], 3, []⟩⟩, result')]

/-- The second visit of such a join. -/
def labelsVisit : JoinCall.Visit := ⟨⟨1, "y", .str "b"⟩, ⟨#[], #[], 3, []⟩⟩

open JoinCall in
/-- The entry behind one that is left out has the number one, and the callback gets its label. Where
the shape says so, it gets number and label, or the number, or neither of them, as also where what
is given for a shape is none. -/
theorem callbacks_get_numbered_children_of_labels :
    (((labelsJoin labelOfContent .null).run (.ofDepth 1)).run ⟨#[], #[], 2, []⟩ =
        .ok "y" ⟨#[], #[], 4, []⟩ ∧
      (labelsJoin labelOfContent .null).IsCall (.ofDepth 1) ⟨#[], #[], 2, []⟩
        (labelsVisits .null (.str "y")) 1 labelsVisit) ∧
    (((labelsJoin argumentTypes (.shape .indexName)).run (.ofDepth 1)).run ⟨#[], #[], 2, []⟩ =
        .ok "int str,int str" ⟨#[], #[], 4, []⟩ ∧
      (labelsJoin argumentTypes (.shape .indexName)).IsCall (.ofDepth 1) ⟨#[], #[], 2, []⟩
        (labelsVisits (.str "int str") (.str "int str")) 1 labelsVisit) ∧
    (((labelsJoin argumentTypes (.shape .index)).run (.ofDepth 1)).run ⟨#[], #[], 2, []⟩ =
        .ok "int int,int int" ⟨#[], #[], 4, []⟩ ∧
      (labelsJoin argumentTypes (.shape .index)).IsCall (.ofDepth 1) ⟨#[], #[], 2, []⟩
        (labelsVisits (.str "int int") (.str "int int")) 1 labelsVisit) ∧
    (((labelsJoin argumentTypes (.str "index")).run (.ofDepth 1)).run ⟨#[], #[], 2, []⟩ =
        .ok "str Context,str Context" ⟨#[], #[], 4, []⟩ ∧
      (labelsJoin argumentTypes (.str "index")).IsCall (.ofDepth 1) ⟨#[], #[], 2, []⟩
        (labelsVisits (.str "str Context") (.str "str Context")) 1 labelsVisit) ∧
    (labelsJoin labelOfContent .null).spec.resolveShape .mapping = .name ∧
    [Value.str "x", .str "y"].Nodup := by
  have hjoin : ∀ callback shape result result' : Value, (labelsJoin callback shape).Trace
      (.ofDepth 1) 0 ⟨#[], #[], 2, []⟩ (labelsVisits result result')
        (.exhausted ⟨#[], #[], 4, []⟩) →
      ((labelsJoin callback shape).run (.ofDepth 1)).run ⟨#[], #[], 2, []⟩ =
        ((labelsJoin callback shape).context.assemble (.ofDepth 1) (labelsJoin callback shape).spec
          (results (labelsVisits result result'))).run ⟨#[], #[], 4, []⟩ ∧
      (labelsJoin callback shape).IsCall (.ofDepth 1) ⟨#[], #[], 2, []⟩
        (labelsVisits result result') 1 labelsVisit ∧
      ((labelsJoin callback shape).HasTextKeys → [Value.str "x", .str "y"].Nodup) := by
    intro callback shape result result' htrace
    obtain ⟨visited, ending, htrace', hrun, hcalls, hnames⟩ := (callbacks_get_numbered_children
      (Host.ofDepth_lawful 1) (j := labelsJoin callback shape) rfl ⟨#[], #[], 2, []⟩).1
    obtain ⟨rfl, rfl⟩ := htrace'.unique htrace
    exact ⟨hrun, hcalls 1 _ rfl, hnames⟩
  obtain ⟨hlabel, hlabelCall, hnames⟩ := hjoin labelOfContent .null .null (.str "y")
    (.visit rfl rfl (.visit rfl rfl (.exhausted rfl)))
  obtain ⟨hboth, hbothCall, -⟩ := hjoin argumentTypes (.shape .indexName)
    (.str "int str") (.str "int str") (.visit rfl rfl (.visit rfl rfl (.exhausted rfl)))
  obtain ⟨hnumber, hnumberCall, -⟩ := hjoin argumentTypes (.shape .index)
    (.str "int int") (.str "int int") (.visit rfl rfl (.visit rfl rfl (.exhausted rfl)))
  obtain ⟨hneither, hneitherCall, -⟩ := hjoin argumentTypes (.str "index")
    (.str "str Context") (.str "str Context") (.visit rfl rfl (.visit rfl rfl (.exhausted rfl)))
  simp only [Context.assemble, Context.render_eq_renderLeaves] at hlabel hboth hnumber hneither
  refine ⟨⟨hlabel, hlabelCall⟩, ⟨hboth, hbothCall⟩, ⟨hnumber, hnumberCall⟩,
    ⟨hneither, hneitherCall⟩, ?shape, hnames ?keys⟩
  case shape =>
    exact (callbacks_get_numbered_children (Host.ofDepth_lawful 1)
      (j := labelsJoin labelOfContent .null) rfl ⟨#[], #[], 2, []⟩).2
  case keys =>
    rintro - entries hentries
    obtain rfl := Value.dict.inj hentries
    refine ⟨List.pairwise_pair.mpr rfl, fun e he => ?_⟩
    simp only [List.mem_cons, List.not_mem_nil, or_false] at he
    rcases he with rfl | rfl
    · exact ⟨"x", rfl⟩
    · exact ⟨"y", rfl⟩

end Stencil
