import Stencil.Proofs.Renaming.Value

/-!
# Renaming the operands of operations

Operations without effects do not depend on identities: with renamed operands they come to the same
result, renamed, or to the same failure, which names renamed values (`Operation.compute_rename`).
Whether operands are without fault does not depend on them either (`Operation.fault?_rename`).
-/

namespace Stencil

/-- What a computation without effects comes to, with new identities: in its result by the given
function, in a failure in the values that it names. -/
def renameOutcome {α β : Type} (ρ : Renaming) (g : α → β) : Except Failure α → Except Failure β
  | .ok x => .ok (g x)
  | .error e => .error (e.rename ρ)

section

variable (ρ : Renaming)

section

variable {α β γ δ : Type} {g : α → β} {k : γ → δ}

/-- A result is renamed by the given function. -/
@[simp] theorem renameOutcome_ok (g : α → β) (x : α) : renameOutcome ρ g (.ok x) = .ok (g x) := rfl

/-- A failure is renamed in the values that it names. -/
@[simp] theorem renameOutcome_error (g : α → β) (e : Failure) :
    renameOutcome ρ g (.error e) = .error (e.rename ρ) := rfl

/-- One computation after the other: if what goes on follows from every result, so does the whole.
-/
theorem renameOutcome_bind {r : Except Failure α} {f : α → Except Failure γ}
    {f' : β → Except Failure δ} (hf : ∀ x, f' (g x) = renameOutcome ρ k (f x)) :
    (renameOutcome ρ g r >>= f') = renameOutcome ρ k (r >>= f) := by
  cases r with
  | ok x => exact hf x
  | error e => rfl

/-- A function of the result may be applied before or after. -/
theorem renameOutcome_map {f : α → γ} {f' : β → δ} (r : Except Failure α)
    (hf : ∀ x, f' (g x) = k (f x)) :
    (renameOutcome ρ g r).map f' = renameOutcome ρ k (r.map f) := by
  cases r with
  | ok x => exact congrArg Except.ok (hf x)
  | error e => rfl

end

namespace Value

variable (v : Value)

/-- A value is written in the same way, or refused. -/
theorem written_rename : (v.rename ρ).written = renameOutcome ρ id v.written := by
  rw [written, written, isWritable_rename, text_rename]
  split <;> rfl

/-- Sums of renamed operands are the renamed sums. -/
theorem add_rename (a b : Value) :
    (a.rename ρ).add (b.rename ρ) = renameOutcome ρ (rename ρ) (a.add b) := by
  have hint := toInt?_rename ρ b
  cases a with
  | str s => cases b <;> rfl
  | bytes s => cases b <;> rfl
  | list s => cases b <;> simp [rename, add, Failure.rename]
  | tuple s => cases b <;> simp [rename, add, Failure.rename]
  | _ =>
    simp only [rename, add, hint]
    cases b.toInt? <;> rfl

/-- A text is filled with the same text, or the operand is refused. -/
theorem fill_rename (a b : Value) (hasPlaces : Bool) :
    (a.rename ρ).fill (b.rename ρ) hasPlaces = renameOutcome ρ (rename ρ) (a.fill b hasPlaces) := by
  have hspare : (a.rename ρ).isSpare (b.rename ρ) = a.isSpare b := by
    cases b <;> simp [rename, isSpare]
  rw [fill, fill, hspare]
  split
  · rfl
  · split <;> rfl

/-- Remainders do not depend on identities. -/
theorem modulo_rename (a b : Value) :
    (a.rename ρ).modulo (b.rename ρ) = renameOutcome ρ (rename ρ) (a.modulo b) := by
  have hint := toInt?_rename ρ b
  cases a with
  | str s => exact fill_rename ρ (.str s) b _
  | bytes s => exact fill_rename ρ (.bytes s) b _
  | int i =>
    have hi : (int i).toInt? = some i := rfl
    simp only [rename, modulo, hint, hi]
    split <;> rfl
  | bool c =>
    have hc : (bool c).toInt? = some (if c then 1 else 0) := rfl
    simp only [rename, modulo, hint, hc]
    split <;> rfl
  | _ =>
    simp only [rename, modulo, hint]
    cases b.toInt? <;> rfl

end Value

mutual

/-- Neither does the order of values. -/
theorem Value.less_rename : ∀ a b : Value,
    (a.rename ρ).less (b.rename ρ) = renameOutcome ρ id (a.less b)
  | .list xs, b => by
    cases b with
    | list ys => simp [Value.rename, Value.less, lessAll_rename xs]
    | _ => rfl
  | .tuple xs, b => by
    cases b with
    | tuple ys => simp [Value.rename, Value.less, lessAll_rename xs]
    | _ => rfl
  | .null, b | .bool _, b | .int _, b | .str _, b | .bytes _, b | .range _, b | .shape _, b
  | .dict _, b | .iterator _, b | .function _, b | .applied _ _ _, b | .context _, b => by
    cases b <;> rfl

/-- The order of lists is told by the first elements that differ. -/
theorem lessAll_rename : ∀ xs ys : List Value,
    lessAll (xs.map (Value.rename ρ)) (ys.map (Value.rename ρ)) =
      renameOutcome ρ id (lessAll xs ys)
  | [], [] => rfl
  | [], _ :: _ => rfl
  | _ :: _, [] => rfl
  | x :: xs, y :: ys => by
    simp only [List.map_cons, lessAll, Value.equals_eq_same, Value.same_rename]
    split
    · exact lessAll_rename xs ys
    · exact x.less_rename y

end

namespace Entries

/-- Under a renamed key stands the renamed value. -/
theorem get?_rename (entries : Entries) (key : Value) :
    get? (entries.map (renameEntry ρ)) (key.rename ρ) =
      (get? entries key).map (Value.rename ρ) := by
  simp only [get?, List.find?_map, Function.comp_def, renameEntry_fst, Value.same_rename,
    Option.map_map, renameEntry_snd]

/-- Writing a renamed value under a renamed key gives the renamed dictionary. -/
theorem insert_rename (entries : Entries) (key value : Value) :
    insert (entries.map (renameEntry ρ)) (key.rename ρ) (value.rename ρ) =
      (insert entries key value).map (renameEntry ρ) := by
  induction entries with
  | nil => rfl
  | cons e entries ih =>
    simp only [List.map_cons, insert, renameEntry, Value.same_rename, ih]
    split <;> rfl

end Entries

namespace Context

variable (c : Context)

/-- A context that is made of renamed parts under the renamed identity is the renamed one. -/
theorem new_rename (id : Nat) (data : Value) (parent : Option Context) (index name : Value) :
    (new id data parent index name).rename ρ =
      new (ρ.id id) (data.rename ρ) (parent.map (rename ρ)) (index.rename ρ) (name.rename ρ) := by
  cases parent <;> simp [new, rename]

/-- The data of the parent is the renamed data. -/
theorem parentData_rename : (c.rename ρ).parentData = c.parentData.rename ρ := by
  rw [parentData, parentData, parent_rename]
  cases c.parent with
  | none => rfl
  | some p => exact p.data_rename ρ

/-- So is the data of all contexts above. -/
theorem parents_rename : ∀ c : Context, (c.rename ρ).parents = c.parents.map (Value.rename ρ)
  | ⟨_, _, none, _, _, _⟩ => rfl
  | ⟨_, _, some p, _, _, _⟩ => by simp [rename, parents, parents_rename p]

/-- So is the data of the root. -/
theorem rootData_rename : ∀ c : Context, (c.rename ρ).rootData = c.rootData.rename ρ
  | ⟨_, _, none, _, _, _⟩ => rfl
  | ⟨_, _, some p, _, _, _⟩ => by simp [rename, rootData, rootData_rename p]

/-- All attributes of a context are the renamed ones, and an unknown one is refused. -/
theorem attribute_rename (name : String) :
    (c.rename ρ).attribute name = renameOutcome ρ (Value.rename ρ) (c.attribute name) := by
  simp only [Context.attribute]
  split <;> simp [Value.rename, parentData_rename, parents_rename, rootData_rename, Failure.rename]
  cases c.parent <;> rfl

end Context

theorem elementAt_map {α β : Type} (f : α → β) (items : List α) (i : Int) :
    elementAt (items.map f) i = renameOutcome ρ f (elementAt items i) := by
  cases i with
  | ofNat n =>
    simp only [elementAt, List.getElem?_map]
    cases items[n]? <;> rfl
  | negSucc n => rfl

namespace Value

/-- Look-up in a renamed container finds the renamed element. -/
theorem lookUp_rename (container key : Value) :
    (container.rename ρ).lookUp (key.rename ρ) =
      renameOutcome ρ (rename ρ) (container.lookUp key) := by
  cases container with
  | dict entries =>
    simp only [rename, renameEntries_eq, lookUp, unhashablePart?_rename, Entries.get?_rename]
    cases key.unhashablePart? with
    | some part => rfl
    | none => cases Entries.get? entries key <;> rfl
  | list items =>
    cases key with
    | int i => simpa only [rename, renameAll_eq, lookUp] using elementAt_map ρ (rename ρ) items i
    | _ => rfl
  | tuple items =>
    cases key with
    | int i => simpa only [rename, renameAll_eq, lookUp] using elementAt_map ρ (rename ρ) items i
    | _ => rfl
  | str s =>
    cases key with
    | int i =>
      simp only [rename, lookUp]
      cases i with
      | ofNat n =>
        simp only [elementAt]
        cases s.toList[n]? <;> rfl
      | negSucc n => rfl
    | _ => rfl
  | _ => cases key <;> rfl

/-- An integer is the same, and what is none is refused. -/
theorem integer_rename (v : Value) : (v.rename ρ).integer = renameOutcome ρ id v.integer := by
  rw [integer, integer, toInt?_rename]
  cases v.toInt? <;> rfl

/-- So is a natural number. -/
theorem natural_rename (v : Value) : (v.rename ρ).natural = renameOutcome ρ id v.natural := by
  rw [natural, natural, integer_rename]
  exact renameOutcome_map ρ _ fun _ => rfl

/-- A progression is made of the same integers. -/
theorem makeRange_rename (start stop step : Value) :
    makeRange (start.rename ρ) (stop.rename ρ) (step.rename ρ) =
      renameOutcome ρ (rename ρ) (makeRange start stop step) := by
  simp only [makeRange, integer_rename]
  refine renameOutcome_bind ρ fun start => renameOutcome_bind ρ fun stop =>
    renameOutcome_bind ρ fun step => ?_
  simp only [id]
  split <;> rfl

/-- Lists around a renamed value are the renamed lists. -/
theorem nested_rename (n : Nat) (v : Value) : (nested n v).rename ρ = nested n (v.rename ρ) := by
  induction n generalizing v with
  | zero => rfl
  | succ n ih => exact ih (.list [v])

/-- Elements are counted, and their number is refused, without regard to identities. -/
theorem storable_rename (n : Nat) : storable n = renameOutcome ρ id (storable n) := by
  rw [storable]
  split <;> rfl

/-- The number of elements of a progression is the same. -/
theorem size_rename (p : Progression) : p.size = renameOutcome ρ id p.size := by
  rw [Progression.size]
  split <;> rfl

/-- A renamed value is repeated as often. -/
theorem repeated_rename (v count : Value) :
    (v.rename ρ).repeated (count.rename ρ) = renameOutcome ρ (rename ρ) (v.repeated count) := by
  rw [repeated, repeated, toInt?_rename]
  cases count.toInt? with
  | none => rfl
  | some n =>
    simp only
    split
    · conv => lhs; rw [storable_rename ρ]
      exact renameOutcome_map ρ _ fun n => by simp [rename]
    · rfl

/-- The numbers below a count are the same. -/
theorem upto_rename (count : Value) :
    (count.rename ρ).upto = renameOutcome ρ (rename ρ) count.upto := by
  simp only [upto, integer_rename]
  refine renameOutcome_bind ρ fun stop => ?_
  conv => lhs; rw [size_rename ρ]
  refine renameOutcome_bind ρ fun n => ?_
  conv => lhs; rw [storable_rename ρ]
  refine renameOutcome_bind ρ fun n => ?_
  simp [rename, pure, Except.pure]

/-- The same digits give the same bytes. -/
theorem unhex_rename (v : Value) : (v.rename ρ).unhex = renameOutcome ρ (rename ρ) v.unhex := by
  cases v with
  | str digits =>
    simp only [rename, unhex]
    cases Text.unhex digits.toList <;> rfl
  | _ => rfl

/-- The number of elements is the same. -/
theorem length_rename (v : Value) : (v.rename ρ).length = renameOutcome ρ id v.length := by
  cases v with
  | list items => simp [rename, length]
  | tuple items => simp [rename, length]
  | dict entries => simp [rename, length]
  | range p =>
    simp only [rename, length, Progression.size]
    split <;> rfl
  | _ => rfl

theorem attributeName_rename (v : Value) :
    (v.rename ρ).attributeName = renameOutcome ρ id v.attributeName := by
  cases v <;> rfl

/-- The same name gives the same shape. -/
theorem shapeNamed_rename (v : Value) :
    (v.rename ρ).shapeNamed = renameOutcome ρ (rename ρ) v.shapeNamed := by
  rw [shapeNamed, shapeNamed, unhashablePart?_rename, toText?_rename]
  cases v.unhashablePart? with
  | some part => rfl
  | none => cases v.toText?.bind Shape.ofLabel? <;> rfl

/-- So does the same tag. -/
theorem shapeTagged_rename (v : Value) :
    (v.rename ρ).shapeTagged = renameOutcome ρ (rename ρ) v.shapeTagged := by
  cases v with
  | str tag =>
    simp only [rename, shapeTagged, toText?, Option.bind_some]
    cases Shape.ofTag? tag <;> rfl
  | _ => rfl

end Value

theorem Shape.attribute_rename (s : Shape) (name : String) :
    s.attribute name = renameOutcome ρ (Value.rename ρ) (s.attribute name) := by
  simp only [Shape.attribute]
  split <;> try rfl
  split <;> rfl

namespace Operation

/-- Several values are written in the same way, or the same one is refused. -/
theorem mapM_written_rename (vs : List Value) :
    (vs.map (Value.rename ρ)).mapM Value.written = renameOutcome ρ id (vs.mapM Value.written) := by
  induction vs with
  | nil => rfl
  | cons v vs ih =>
    rw [List.map_cons, List.mapM_cons, List.mapM_cons, v.written_rename, ih]
    refine renameOutcome_bind ρ fun _ => renameOutcome_bind ρ fun _ => rfl

/-- Operations without effects do not depend on identities. -/
theorem compute_rename (operation : Operation) (operands : List Value) :
    operation.compute (operands.map (Value.rename ρ)) =
      renameOutcome ρ (Value.rename ρ) (operation.compute operands) := by
  cases operation with
  | list => exact congrArg (fun vs => Except.ok (Value.list vs)) (renameAll_eq ρ operands).symm
  | tuple => exact congrArg (fun vs => Except.ok (Value.tuple vs)) (renameAll_eq ρ operands).symm
  | concatenate =>
    show ((operands.map (Value.rename ρ)).mapM Value.written).map _ =
      renameOutcome ρ (Value.rename ρ) ((operands.mapM Value.written).map _)
    rw [mapM_written_rename]
    exact renameOutcome_map ρ _ fun _ => rfl
  | last =>
    simp only [compute, List.getLast?_map]
    cases operands.getLast? <;> rfl
  | flatten =>
    show Except.ok (Value.list (Template.flatten (operands.map (Value.rename ρ)))) =
      Except.ok (Value.list (renameAll ρ (Template.flatten operands)))
    rw [Template.flatten_eq_leaves, Template.flatten_eq_leaves, Template.leaves_rename,
      renameAll_eq]
  | range =>
    match operands with
    | [] => rfl
    | [stop] => exact Value.makeRange_rename ρ (.int 0) stop (.int 1)
    | [start, stop] => exact Value.makeRange_rename ρ start stop (.int 1)
    | [start, stop, step] => exact Value.makeRange_rename ρ start stop step
    | a :: b :: c :: d :: rest =>
      show Except.error
          (Failure.rangeBounds ((a :: b :: c :: d :: rest).map (Value.rename ρ)).length) =
        Except.error (Failure.rangeBounds (a :: b :: c :: d :: rest).length)
      rw [List.length_map]
  | bytes =>
    match operands with
    | [digits] => exact digits.unhex_rename ρ
    | [] | _ :: _ :: _ => rfl
  | repeated =>
    match operands with
    | [count, v] => exact v.repeated_rename ρ count
    | [] | [_] | _ :: _ :: _ :: _ => rfl
  | nest =>
    match operands with
    | [count, v] =>
      show (count.rename ρ).natural.map (nested · (v.rename ρ)) =
        renameOutcome ρ (Value.rename ρ) (count.natural.map (nested · v))
      rw [count.natural_rename]
      exact renameOutcome_map ρ _ fun n => (Value.nested_rename ρ n v).symm
    | [] | [_] | _ :: _ :: _ :: _ => rfl
  | upto =>
    match operands with
    | [count] => exact count.upto_rename ρ
    | [] | _ :: _ :: _ => rfl
  | get =>
    match operands with
    | [container, key] => exact container.lookUp_rename ρ key
    | [] | [_] | _ :: _ :: _ :: _ => rfl
  | getOptional =>
    match operands with
    | [v, key] =>
      cases v with
      | dict entries =>
        simp only [List.map_cons, List.map_nil, Value.rename, compute, key.unhashablePart?_rename,
          renameEntries_eq, Entries.get?_rename]
        cases key.unhashablePart? with
        | some part => rfl
        | none => cases Entries.get? entries key <;> rfl
      | _ => rfl
    | [] => rfl
    | [v] | v :: _ :: _ :: _ => cases v <;> rfl
  | text =>
    match operands with
    | [v] =>
      show (v.rename ρ).written.map .str = renameOutcome ρ (Value.rename ρ) (v.written.map .str)
      rw [v.written_rename]
      exact renameOutcome_map ρ _ fun _ => rfl
    | [] | _ :: _ :: _ => rfl
  | typeName =>
    match operands with
    | [v] => exact congrArg (fun s => Except.ok (Value.str s)) (v.typeName_rename ρ)
    | [] | _ :: _ :: _ => rfl
  | negate =>
    match operands with
    | [v] => exact congrArg (fun b => Except.ok (Value.bool !b)) (v.truthy_rename ρ)
    | [] | _ :: _ :: _ => rfl
  | isTemplateFunction | isConditionFunction | isSelectorFunction =>
    match operands with
    | [v] => exact congrArg (fun b => Except.ok (Value.bool b)) (v.isCallable_rename ρ)
    | [] | _ :: _ :: _ => rfl
  | isTemplateSequence =>
    match operands with
    | [v] => exact congrArg (fun b => Except.ok (Value.bool b)) (v.isSequence_rename ρ)
    | [] | _ :: _ :: _ => rfl
  | arity =>
    match operands with
    | [v] => exact congrArg (fun a => Except.ok (Value.int a.code)) (v.arity_rename ρ)
    | [] | _ :: _ :: _ => rfl
  | detectShape =>
    match operands with
    | [v, mapping] =>
      show Except.ok (Value.shape ((v.rename ρ).detectShape
        (if (mapping.rename ρ).truthy then .mapping else .sequence))) = _
      rw [v.detectShape_rename, mapping.truthy_rename]
      rfl
    | [] | [_] | _ :: _ :: _ :: _ => rfl
  | length =>
    match operands with
    | [v] =>
      show Except.map Value.int ((v.rename ρ).length >>= fun n => pure (n : Int)) =
        renameOutcome ρ (Value.rename ρ)
          (Except.map Value.int (v.length >>= fun n => pure (n : Int)))
      rw [v.length_rename]
      cases v.length <;> rfl
    | [] | _ :: _ :: _ => rfl
  | equal =>
    match operands with
    | [a, b] =>
      show Except.ok (Value.bool ((a.rename ρ).equals (b.rename ρ))) =
        Except.ok (Value.bool (a.equals b))
      rw [Value.equals_eq_same, Value.equals_eq_same, a.same_rename]
    | [] | [_] | _ :: _ :: _ :: _ => rfl
  | less =>
    match operands with
    | [a, b] =>
      show ((a.rename ρ).less (b.rename ρ)).map Value.bool = _
      rw [a.less_rename]
      exact renameOutcome_map ρ _ fun _ => rfl
    | [] | [_] | _ :: _ :: _ :: _ => rfl
  | add =>
    match operands with
    | [a, b] => exact a.add_rename ρ b
    | [] | [_] | _ :: _ :: _ :: _ => rfl
  | modulo =>
    match operands with
    | [a, b] => exact a.modulo_rename ρ b
    | [] | [_] | _ :: _ :: _ :: _ => rfl
  | fail =>
    match operands with
    | [kind, message] => cases kind <;> rfl
    | [] => rfl
    | [kind] | kind :: _ :: _ :: _ => cases kind <;> rfl
  | «attribute» =>
    match operands with
    | [v, name] =>
      cases v with
      | shape s =>
        show (name.rename ρ).attributeName.bind s.attribute = _
        rw [name.attributeName_rename]
        exact renameOutcome_bind ρ fun name => s.attribute_rename ρ name
      | context c =>
        show (name.rename ρ).attributeName.bind (c.rename ρ).attribute = _
        rw [name.attributeName_rename]
        exact renameOutcome_bind ρ fun name => c.attribute_rename ρ name
      | _ => rfl
    | [] => rfl
    | [v] | v :: _ :: _ :: _ => cases v <;> rfl
  | setAttribute =>
    match operands with
    | [_, name, _] =>
      show (name.rename ρ).attributeName.bind (fun name => .error (.fieldAssigned name)) = _
      rw [name.attributeName_rename]
      exact renameOutcome_bind ρ fun _ => rfl
    | [] | [_] | [_, _] | _ :: _ :: _ :: _ :: _ => rfl
  | deleteAttribute =>
    match operands with
    | [_, name] =>
      show (name.rename ρ).attributeName.bind (fun name => .error (.fieldDeleted name)) = _
      rw [name.attributeName_rename]
      exact renameOutcome_bind ρ fun _ => rfl
    | [] | [_] | _ :: _ :: _ :: _ => rfl
  | shapeNamed =>
    match operands with
    | [name] => exact name.shapeNamed_rename ρ
    | [] | _ :: _ :: _ => rfl
  | shapeTagged =>
    match operands with
    | [tag] => exact tag.shapeTagged_rename ρ
    | [] | _ :: _ :: _ => rfl
  | shapes => cases operands <;> rfl
  | _ => rfl

/-- What is wrong with operands does not depend on identities. -/
theorem fault?_rename (operation : Operation) (operands : List Value) :
    operation.fault? (operands.map (Value.rename ρ)) =
      (operation.fault? operands).map (Failure.rename ρ) := by
  have hcontext : operation.contextFault? (operands.map (Value.rename ρ)) =
      (operation.contextFault? operands).map (Failure.rename ρ) := by
    cases operation with
    | newContext =>
      rcases operands with _ | ⟨data, _ | ⟨parent, others⟩⟩
      · rfl
      · rfl
      · simp only [List.map_cons, contextFault?, parent.isNull_rename, parent.isContext_rename]
        split <;> rfl
    | _ =>
      cases operands with
      | nil => rfl
      | cons v vs => cases v <;> rfl
  have hdeclared : ∀ d : Declaration, d.fault? (operands.map (Value.rename ρ)).length =
      (d.fault? operands.length).map (Failure.rename ρ) := by
    intro d
    rw [List.length_map]
    simp only [Declaration.fault?]
    split
    · rfl
    · split <;> rfl
  rw [fault?, fault?, hcontext, Option.map_or, Option.map_bind]
  congr 2
  funext d
  exact hdeclared d

end Operation

end

end Stencil
