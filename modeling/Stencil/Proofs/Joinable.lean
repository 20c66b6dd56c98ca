import Stencil.Proofs.Composition
import Stencil.Proofs.Provenance

/-!
# When joins succeed

Once the last entry was visited, a join succeeds when nothing was kept, or when the separator and
all kept results are texts and both opening and closing can be rendered. A separator or a result
that is no text is found out between the two: the opening has been rendered, the closing has not.
-/

namespace Stencil

/-- A separator that can stand between results: it is a text, and so is each of them. -/
def Joinable (separator : Value) (results : List Value) : Prop :=
  (∃ text, separator = .str text) ∧ ∀ r ∈ results, ∃ text, r = .str text

/-- A join with another closing. -/
def JoinCall.withClosing (j : JoinCall) (closing : Value) : JoinCall :=
  { j with spec := { j.spec with closing } }

/-- The tasks that run a join: in its mode, or in the one that its items decide, where these are the
same. -/
inductive Task.Performs (j : JoinCall) : Task → Prop
  /-- The mode is given. -/
  | inMode : Performs j (.joinIn j)
  /-- The mode is decided by the items. -/
  | byItems (hmode : j.mode = j.items.joinMode) : Performs j (.join j.context j.items j.spec)

/-- A value that is no text is told by having none. -/
theorem Value.toText?_eq_none_iff {v : Value} : v.toText? = none ↔ ∀ text, v ≠ .str text := by
  cases v <;> simp [toText?]

/-- Results are joined exactly when the separator and they all are texts. -/
theorem exists_joinResults_eq_ok_iff {separator : Value} {results : List Value} :
    (∃ body, joinResults separator results = .ok body) ↔ Joinable separator results := by
  constructor
  · rintro ⟨body, hbody⟩
    cases separator with
    | str text =>
      rcases texts_or_refused results with ⟨texts, rfl⟩ | ⟨texts, result, rest, rfl, hresult⟩
      · exact ⟨⟨text, rfl⟩, fun r hr => (List.mem_map.mp hr).imp fun _ hx => hx.2.symm⟩
      · rw [joinResults_refused text texts hresult] at hbody
        cases hbody
    | bytes content =>
      simp only [joinResults] at hbody
      split at hbody <;> cases hbody
    | _ => cases hbody
  · rintro ⟨⟨text, rfl⟩, htexts⟩
    rcases texts_or_refused results with ⟨texts, rfl⟩ | ⟨texts, result, rest, rfl, hresult⟩
    · exact ⟨_, joinResults_texts text texts⟩
    · obtain ⟨other, rfl⟩ := htexts result (by simp)
      cases hresult

/-- What cannot be joined is refused. -/
theorem exists_joinResults_eq_error {separator : Value} {results : List Value}
    (hnot : ¬Joinable separator results) : ∃ e, joinResults separator results = .error e := by
  cases hjoin : joinResults separator results with
  | ok body => exact absurd (exists_joinResults_eq_ok_iff.mp ⟨body, hjoin⟩) hnot
  | error e => exact ⟨e, rfl⟩

/-- A task that runs a join does so. -/
theorem Task.Performs.run_eq {h : Host} {j : JoinCall} {task : Task} (htask : task.Performs j)
    (hwalk : j.items.isWalkable j.mode = true) : task.run h = .str <$> j.run h := by
  cases htask with
  | inMode => rfl
  | byItems hmode =>
    have hitems : j.items.isNull = false := by
      cases hj : j.items with
      | null =>
        rw [hj] at hwalk
        cases hm : j.mode <;> rw [hm] at hwalk <;> cases hwalk
      | _ => rfl
    rw [Task.run, Context.join_eq_run h j.context hitems, ← hmode]

namespace JoinCall

section

variable {h : Host} {j : JoinCall} {i : Nat} {s t : State} {visited : List (Entry × Value)}

/-- The entries are walked over without regard to the closing. -/
theorem Walk.withClosing (hwalk : j.Walk h i s visited t) (closing : Value) :
    (j.withClosing closing).Walk h i s visited t := by
  induction hwalk with
  | nil i s => exact .nil i s
  | cons hask hvisit _ ih => exact .cons hask hvisit ih

theorem Exhausts.withClosing (hend : j.Exhausts h s visited t) (closing : Value) :
    (j.withClosing closing).Exhausts h s visited t := by
  obtain ⟨u, hwalk, hnone⟩ := hend
  exact ⟨u, hwalk.withClosing closing, hnone⟩

variable (hh : h.Lawful) (hwalk : j.items.isWalkable j.mode = true)
include hh hwalk

/-- After the last entry, what is left of a join is to put the kept results together. -/
theorem Exhausts.run_eq (hend : j.Exhausts h s visited t) :
    (j.run h).run s = (j.context.assemble h j.spec (kept visited)).run t := by
  cases hassemble : (j.context.assemble h j.spec (kept visited)).run t with
  | ok text u => exact (run_eq_ok_iff hh hwalk).mpr ⟨visited, t, hend, hassemble⟩
  | error e u => exact (run_eq_error_iff hh hwalk).mpr (.inr (.inr ⟨visited, t, hend, hassemble⟩))

/-- After the last entry a join succeeds when nothing was kept, or else when the results can be
joined and opening and closing can be rendered. -/
theorem Exhausts.exists_run_eq_ok_iff (hend : j.Exhausts h s visited t) :
    (∃ text u, (j.run h).run s = .ok text u) ↔
      kept visited = [] ∨ Joinable j.spec.separator (kept visited) ∧
        ∃ opening u closing v, (j.context.render h [j.spec.opening]).run t = .ok opening u ∧
          (j.context.render h [j.spec.closing]).run u = .ok closing v := by
  simp only [hend.run_eq hh hwalk, Context.run_assemble_eq_ok_iff]
  constructor
  · rintro ⟨text, u, ⟨hnil, -, -⟩ | ⟨-, opening, v, body, closing, hopening, hbody, hclosing, -⟩⟩
    · exact .inl hnil
    · exact .inr ⟨exists_joinResults_eq_ok_iff.mp ⟨body, hbody⟩, opening, v, closing, u, hopening,
        hclosing⟩
  · intro hsuccess
    by_cases hnil : kept visited = []
    · exact ⟨"", t, .inl ⟨hnil, rfl, rfl⟩⟩
    · obtain ⟨hjoinable, opening, u, closing, v, hopening, hclosing⟩ :=
        hsuccess.resolve_left hnil
      obtain ⟨body, hbody⟩ := exists_joinResults_eq_ok_iff.mpr hjoinable
      exact ⟨_, v, .inr ⟨hnil, opening, u, body, closing, hopening, hbody, hclosing, rfl⟩⟩

/-- Results that cannot be joined make a join fail between opening and closing. -/
theorem Exhausts.run_eq_error (hend : j.Exhausts h s visited t) (hkept : kept visited ≠ [])
    {e : Failure} (hbody : joinResults j.spec.separator (kept visited) = .error e)
    {opening : String} {u : State}
    (hopening : (j.context.render h [j.spec.opening]).run t = .ok opening u) :
    (j.run h).run s = .error e u := by
  rw [hend.run_eq hh hwalk]
  exact Context.run_assemble_eq_error_iff.mpr
    ⟨hkept, .inr ⟨opening, u, hopening, .inl ⟨hbody, rfl⟩⟩⟩

end

end JoinCall

open JoinCall in
/-- When all entries were visited, a join succeeds if and only if nothing was kept, or the separator
and all kept results are texts and opening and then closing can be rendered; its value is always a
text, and for null items the empty one. Between texts, the first kept result that is none is named
with the number of those kept before it and with its type; byte strings never separate anything.
Where separator or results are to blame, the opening was rendered just before, and the closing makes
no difference. -/
theorem join_succeeds_on_texts {h : Host} (hh : h.Lawful) {j : JoinCall} {task : Task}
    (htask : task.Performs j) (hwalk : j.items.isWalkable j.mode = true) {s t : State}
    {visited : List (Entry × Value)} (hend : j.Exhausts h s visited t) :
    ((∃ v u, (task.run h).run s = .ok v u) ↔
      kept visited = [] ∨ Joinable j.spec.separator (kept visited) ∧
        ∃ opening u closing v, (j.context.render h [j.spec.opening]).run t = .ok opening u ∧
          (j.context.render h [j.spec.closing]).run u = .ok closing v) ∧
    (∀ v u, (task.run h).run s = .ok v u → ∃ text, v = .str text) ∧
    (Task.join j.context .null j.spec).run h = pure (.str "") ∧
    (∀ separator opening u, j.spec.separator = .str separator →
      (∃ r ∈ kept visited, ∀ text, r ≠ .str text) →
      (j.context.render h [j.spec.opening]).run t = .ok opening u →
      ∃ (texts : List String) (result : Value) (rest : List Value) (e : Failure),
        kept visited = texts.map .str ++ result :: rest ∧ (∀ text, result ≠ .str text) ∧
        (task.run h).run s = .error e u ∧
        e.report = ("TypeError", "sequence item " ++ toString texts.length ++
          ": expected str instance, " ++ result.qualifiedTypeName ++ " found")) ∧
    (∀ content, j.spec.separator = .bytes content → kept visited ≠ [] →
      ∀ v u, (task.run h).run s ≠ .ok v u) ∧
    (kept visited ≠ [] → ¬Joinable j.spec.separator (kept visited) →
      ∀ opening u, (j.context.render h [j.spec.opening]).run t = .ok opening u →
        ∃ e, (task.run h).run s = .error e u ∧
          ∀ closing, ((j.withClosing closing).run h).run s = .error e u) := by
  have hrun : task.run h = .str <$> j.run h := htask.run_eq hwalk
  have hsuccess : (∃ v u, (task.run h).run s = .ok v u) ↔
      ∃ text u, (j.run h).run s = .ok text u := by
    simp only [hrun, Action.run_map_eq_ok_iff]
    constructor
    · rintro ⟨_, u, text, htext, rfl⟩
      exact ⟨text, u, htext⟩
    · rintro ⟨text, u, htext⟩
      exact ⟨.str text, u, text, htext, rfl⟩
  have hiff := hsuccess.trans (hend.exists_run_eq_ok_iff hh hwalk)
  refine ⟨hiff, fun v u hv => ?text, rfl, fun separator opening u hsep hsome hopening => ?result,
    fun content hsep hkept v u hv => ?bytes, fun hkept hnot opening u hopening => ?between⟩
  case text =>
    rw [hrun, Action.run_map_eq_ok_iff] at hv
    obtain ⟨text, -, rfl⟩ := hv
    exact ⟨text, rfl⟩
  case result =>
    rcases texts_or_refused (kept visited) with ⟨texts, he⟩ | ⟨texts, result, rest, he, hresult⟩
    · obtain ⟨r, hr, hnone⟩ := hsome
      rw [he] at hr
      obtain ⟨text, -, rfl⟩ := List.mem_map.mp hr
      exact absurd rfl (hnone text)
    · have hbody : joinResults j.spec.separator (kept visited) =
          .error (.notJoinableText texts.length result) := by
        rw [hsep, he, joinResults_refused separator texts hresult]
      have herror := hend.run_eq_error hh hwalk (by simp [he]) hbody hopening
      refine ⟨texts, result, rest, .notJoinableText texts.length result, he,
        Value.toText?_eq_none_iff.mp hresult, ?_, rfl⟩
      rw [hrun]
      exact Action.run_map_eq_error_iff.mpr herror
  case bytes =>
    rcases hiff.mp ⟨v, u, hv⟩ with hnil | ⟨⟨⟨text, htext⟩, -⟩, -⟩
    · exact hkept hnil
    · rw [hsep] at htext
      cases htext
  case between =>
    obtain ⟨e, hbody⟩ := exists_joinResults_eq_error hnot
    refine ⟨e, ?_, fun closing => ?_⟩
    · rw [hrun]
      exact Action.run_map_eq_error_iff.mpr (hend.run_eq_error hh hwalk hkept hbody hopening)
    · have hend' := hend.withClosing closing
      exact Exhausts.run_eq_error (j := j.withClosing closing) hh hwalk hend' hkept hbody hopening

/-- A join over a list with a part that is left out and one that is no text. -/
def mixedJoin : JoinCall where
  context := .ofData 0 (.str "d")
  items := .list [.str "a", .null, .int 5, .str "b"]
  mode := .sequence
  spec := ⟨.str ",", loggingCallback, loggingLeaf, loggingLeaf, .null⟩

/-- The number is found between the texts after the opening was logged, in the second place of the
kept results, and the closing is not. -/
theorem join_succeeds_on_texts_not_on_number :
    ∃ e, ((Task.join mixedJoin.context mixedJoin.items mixedJoin.spec).run (.ofDepth 2)).run
        ⟨#[], #[], 1, []⟩ =
          .error e ⟨#["item", "item", "item", "item", "leaf"], #[], 5, []⟩ ∧
      e.report = ("TypeError", "sequence item 1: expected str instance, int found") := by
  have hend : mixedJoin.Exhausts (.ofDepth 2) ⟨#[], #[], 1, []⟩
      [(⟨0, "0", .str "a"⟩, .str "a"), (⟨1, "1", .null⟩, .null), (⟨2, "2", .int 5⟩, .int 5),
        (⟨3, "3", .str "b"⟩, .str "b")] ⟨#["item", "item", "item", "item"], #[], 5, []⟩ :=
    ⟨_, .cons rfl rfl (.cons rfl rfl (.cons rfl rfl (.cons rfl rfl (.nil 4 _)))), rfl⟩
  have hopening : (mixedJoin.context.render (.ofDepth 2) [loggingLeaf]).run
      ⟨#["item", "item", "item", "item"], #[], 5, []⟩ =
        .ok "d" ⟨#["item", "item", "item", "item", "leaf"], #[], 5, []⟩ := by
    rw [Context.render_eq_renderLeaves]
    rfl
  obtain ⟨texts, result, rest, e, hkept, hresult, hrun, hreport⟩ :=
    (join_succeeds_on_texts (Host.ofDepth_lawful 2) (.byItems rfl) rfl hend).2.2.2.1 "," "d" _ rfl
      ⟨.int 5, .tail _ (.head _), nofun⟩ hopening
  refine ⟨e, hrun, ?_⟩
  match texts, hkept with
  | [], hkept =>
    obtain ⟨rfl, -⟩ := List.cons_eq_cons.mp hkept
    exact absurd rfl (hresult "a")
  | [text], hkept =>
    obtain ⟨-, hkept⟩ := List.cons_eq_cons.mp hkept
    obtain ⟨rfl, -⟩ := List.cons_eq_cons.mp hkept
    rw [hreport, List.length_singleton]
    rfl
  | _ :: _ :: _, hkept =>
    obtain ⟨-, hkept⟩ := List.cons_eq_cons.mp hkept
    cases (List.cons_eq_cons.mp hkept).1

end Stencil
