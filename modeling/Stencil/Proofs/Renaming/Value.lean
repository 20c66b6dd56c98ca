import Stencil.Script.Apply

/-!
# Renaming identities

Callables, contexts and one-shot iterators are told apart by the numbers that were given out for
them. A `Renaming` replaces these numbers. Equality only compares them and no text shows them, so
all that is read off a value comes out the same, renamed: its texts, its truth, its leaves and its
signature, and the kind and message of a failure that names it.
-/

namespace Stencil

/-- New identities for callables and contexts, and new places for one-shot iterators. What was told
apart before still is. -/
structure Renaming where
  /-- The new identity of a callable or context. -/
  id : Nat → Nat
  /-- The new place of a one-shot iterator. -/
  place : Nat → Nat
  /-- Identities stay apart. -/
  id_injective : Function.Injective id
  /-- Places stay apart. -/
  place_injective : Function.Injective place

mutual

/-- A value with new identities. -/
def Value.rename (ρ : Renaming) : Value → Value
  | .list items => .list (renameAll ρ items)
  | .tuple items => .tuple (renameAll ρ items)
  | .dict entries => .dict (renameEntries ρ entries)
  | .iterator id => .iterator (ρ.place id)
  | .function f => .function (f.rename ρ)
  | .applied id f bound => .applied (ρ.id id) (f.rename ρ) (renameAll ρ bound)
  | .context c => .context (c.rename ρ)
  | v => v

/-- A function with new identities. -/
def Closure.rename (ρ : Renaming) : Closure → Closure
  | ⟨id, name, signature, body, scope⟩ => ⟨ρ.id id, name, signature, body, renameScope ρ scope⟩

/-- A context with new identities, also of those above it. -/
def Context.rename (ρ : Renaming) : Context → Context
  | ⟨id, data, parent, index, name, depth⟩ =>
    ⟨ρ.id id, data.rename ρ, renameParent ρ parent, index.rename ρ, name.rename ρ, depth⟩

/-- The parent of a context, if there is one, with new identities. -/
def renameParent (ρ : Renaming) : Option Context → Option Context
  | none => none
  | some p => some (p.rename ρ)

/-- Several values with new identities. -/
def renameAll (ρ : Renaming) : List Value → List Value
  | [] => []
  | v :: vs => v.rename ρ :: renameAll ρ vs

/-- Dictionary entries with new identities. -/
def renameEntries (ρ : Renaming) : List (Value × Value) → List (Value × Value)
  | [] => []
  | (k, v) :: es => (k.rename ρ, v.rename ρ) :: renameEntries ρ es

/-- Argument lists with new identities. -/
def renameScope (ρ : Renaming) : List (List Value) → List (List Value)
  | [] => []
  | arguments :: scope => renameAll ρ arguments :: renameScope ρ scope

end

/-- An entry of a dictionary with new identities. -/
def renameEntry (ρ : Renaming) (e : Value × Value) : Value × Value :=
  (e.1.rename ρ, e.2.rename ρ)

section

variable (ρ : Renaming)

/-- Several values are renamed one by one. -/
@[simp] theorem renameAll_eq (vs : List Value) : renameAll ρ vs = vs.map (Value.rename ρ) := by
  induction vs with
  | nil => rfl
  | cons v vs ih => rw [renameAll, ih, List.map_cons]

/-- So are the entries of a dictionary. -/
@[simp] theorem renameEntries_eq (es : List (Value × Value)) :
    renameEntries ρ es = es.map (renameEntry ρ) := by
  induction es with
  | nil => rfl
  | cons e es ih => rw [renameEntries, ih, List.map_cons, renameEntry]

/-- In a scope, each argument of each list is renamed. -/
@[simp] theorem renameScope_eq (scope : List (List Value)) :
    renameScope ρ scope = scope.map (List.map (Value.rename ρ)) := by
  induction scope with
  | nil => rfl
  | cons arguments scope ih => rw [renameScope, ih, renameAll_eq, List.map_cons]

/-- A parent is renamed if there is one. -/
@[simp] theorem renameParent_eq (parent : Option Context) :
    renameParent ρ parent = parent.map (Context.rename ρ) := by
  cases parent <;> rfl

@[simp] theorem renameEntry_fst (e : Value × Value) : (renameEntry ρ e).1 = e.1.rename ρ := rfl

@[simp] theorem renameEntry_snd (e : Value × Value) : (renameEntry ρ e).2 = e.2.rename ρ := rfl

/-- Identities are the same after renaming if they were before. -/
@[simp] theorem Renaming.id_beq (i j : Nat) : (ρ.id i == ρ.id j) = (i == j) := by
  rw [Bool.eq_iff_iff, beq_iff_eq, beq_iff_eq, ρ.id_injective.eq_iff]

/-- So are places. -/
@[simp] theorem Renaming.place_beq (i j : Nat) : (ρ.place i == ρ.place j) = (i == j) := by
  rw [Bool.eq_iff_iff, beq_iff_eq, beq_iff_eq, ρ.place_injective.eq_iff]

@[simp] theorem Closure.id_rename (f : Closure) : (f.rename ρ).id = ρ.id f.id := by
  cases f
  rfl

/-- A renamed function has the same parameters. -/
@[simp] theorem Closure.signature_rename (f : Closure) : (f.rename ρ).signature = f.signature := by
  cases f
  rfl

/-- It has the same body. -/
@[simp] theorem Closure.body_rename (f : Closure) : (f.rename ρ).body = f.body := by
  cases f
  rfl

/-- It refers to renamed arguments. -/
@[simp] theorem Closure.scope_rename (f : Closure) :
    (f.rename ρ).scope = f.scope.map (List.map (Value.rename ρ)) := by
  cases f
  simp [Closure.rename]

@[simp] theorem Context.id_rename (c : Context) : (c.rename ρ).id = ρ.id c.id := by
  cases c
  rfl

/-- A renamed context holds renamed data. -/
@[simp] theorem Context.data_rename (c : Context) : (c.rename ρ).data = c.data.rename ρ := by
  cases c
  rfl

/-- It stands below the renamed parent. -/
@[simp] theorem Context.parent_rename (c : Context) :
    (c.rename ρ).parent = c.parent.map (Context.rename ρ) := by
  cases c
  simp [Context.rename]

@[simp] theorem Context.index_rename (c : Context) : (c.rename ρ).index = c.index.rename ρ := by
  cases c
  rfl

@[simp] theorem Context.name_rename (c : Context) : (c.rename ρ).name = c.name.rename ρ := by
  cases c
  rfl

/-- It is as deep as before. -/
@[simp] theorem Context.depth_rename (c : Context) : (c.rename ρ).depth = c.depth := by
  cases c
  rfl

mutual

/-- Equality is not affected. -/
theorem Value.same_rename : ∀ a b : Value, (a.rename ρ).same (b.rename ρ) = a.same b
  | .list xs, b => by cases b <;> simp [Value.rename, Value.same, allSame_rename xs]
  | .tuple xs, b => by cases b <;> simp [Value.rename, Value.same, allSame_rename xs]
  | .dict es, b => by cases b <;> simp [Value.rename, Value.same, allPresent_rename es]
  | .iterator _, b | .function _, b | .applied _ _ _, b | .context _, b => by
    cases b <;> simp [Value.rename, Value.same]
  | .null, b | .bool _, b | .int _, b | .str _, b | .bytes _, b | .range _, b | .shape _, b => by
    cases b <;> rfl

/-- Nor is that of lists of values. -/
theorem allSame_rename : ∀ xs ys : List Value,
    allSame (xs.map (Value.rename ρ)) (ys.map (Value.rename ρ)) = allSame xs ys
  | [], ys => by cases ys <;> rfl
  | x :: xs, ys => by cases ys <;> simp [allSame, x.same_rename, allSame_rename xs]

/-- Entries are found among others under any names of identities. -/
theorem allPresent_rename : ∀ es fs : List (Value × Value),
    allPresent (es.map (renameEntry ρ)) (fs.map (renameEntry ρ)) = allPresent es fs
  | [], fs => by simp [allPresent]
  | (k, v) :: es, fs => by
    simp [allPresent, renameEntry, k.same_rename, v.same_rename, allPresent_rename es,
      Function.comp_def]

end

mutual

/-- No text shows an identity. -/
theorem Value.source_rename : ∀ v : Value, (v.rename ρ).source = v.source
  | .list vs => congrArg (fun ss => "[" ++ ", ".intercalate ss ++ "]") (sources_rename vs)
  | .tuple vs => congrArg tupleSource (sources_rename vs)
  | .dict es =>
    congrArg (fun ss => "\x7b" ++ ", ".intercalate ss ++ "\x7d") (entrySources_rename es)
  | .applied _ ⟨_, name, _, _, _⟩ vs =>
    congrArg (fun ss => "functools.partial(" ++ ", ".intercalate (("<fn " ++ name ++ ">") :: ss) ++
      ")") (sources_rename vs)
  | .context c => c.source_rename
  | .null | .bool _ | .int _ | .str _ | .bytes _ | .range _ | .iterator _ | .shape _
  | .function ⟨_, _, _, _, _⟩ => rfl

/-- The text of a context shows its data, index, name and depth. -/
theorem Context.source_rename : ∀ c : Context, (c.rename ρ).source = c.source
  | ⟨id, data, parent, index, name, depth⟩ => by
    have hparts : ∀ c : Context, c.source = "Context(data=" ++ c.data.source ++ ", index=" ++
        c.index.source ++ ", name=" ++ c.name.source ++ ", depth=" ++ toString c.depth ++ ")" :=
      fun ⟨_, _, _, _, _, _⟩ => rfl
    rw [hparts, hparts, Context.data_rename, Context.index_rename, Context.name_rename,
      Context.depth_rename, data.source_rename, index.source_rename, name.source_rename]

/-- The texts of several values do not show identities. -/
theorem sources_rename : ∀ vs : List Value, sources (renameAll ρ vs) = sources vs
  | [] => rfl
  | v :: vs => by
    show (v.rename ρ).source :: sources (renameAll ρ vs) = v.source :: sources vs
    rw [v.source_rename, sources_rename vs]

/-- The texts of dictionary entries do not show identities. -/
theorem entrySources_rename : ∀ es : List (Value × Value),
    entrySources (renameEntries ρ es) = entrySources es
  | [] => rfl
  | (k, v) :: es => by
    show ((k.rename ρ).source ++ ": " ++ (v.rename ρ).source) :: entrySources (renameEntries ρ es) =
      (k.source ++ ": " ++ v.source) :: entrySources es
    rw [k.source_rename, v.source_rename, entrySources_rename es]

end

mutual

/-- Whether a value can be written depends on the integers in it. -/
theorem Value.isWritable_rename : ∀ v : Value, (v.rename ρ).isWritable = v.isWritable
  | .list vs => by simp [Value.rename, Value.isWritable, areWritable_rename vs]
  | .tuple vs => by simp [Value.rename, Value.isWritable, areWritable_rename vs]
  | .dict es => by simp [Value.rename, Value.isWritable, entriesWritable_rename es]
  | .applied _ _ vs => by simp [Value.rename, Value.isWritable, areWritable_rename vs]
  | .context c => by simp [Value.rename, Value.isWritable, c.isWritable_rename]
  | .null | .bool _ | .int _ | .str _ | .bytes _ | .range _ | .iterator _ | .shape _
  | .function _ => rfl

/-- A context can be written if its data, index and name can. -/
theorem Context.isWritable_rename : ∀ c : Context, (c.rename ρ).isWritable = c.isWritable
  | ⟨_, data, _, index, name, _⟩ => by
    simp [Context.rename, Context.isWritable, data.isWritable_rename, index.isWritable_rename,
      name.isWritable_rename]

/-- Whether all of several values can be written does not depend on identities. -/
theorem areWritable_rename : ∀ vs : List Value,
    areWritable (vs.map (Value.rename ρ)) = areWritable vs
  | [] => rfl
  | v :: vs => by simp [areWritable, v.isWritable_rename, areWritable_rename vs]

/-- Whether all entries can be written does not depend on identities. -/
theorem entriesWritable_rename : ∀ es : List (Value × Value),
    entriesWritable (es.map (renameEntry ρ)) = entriesWritable es
  | [] => rfl
  | (k, v) :: es => by
    simp [entriesWritable, renameEntry, k.isWritable_rename, v.isWritable_rename,
      entriesWritable_rename es]

end

mutual

/-- The leaves of a template are the same ones. -/
theorem Template.leavesOf_rename : ∀ v : Value,
    leavesOf (v.rename ρ) = (leavesOf v).map (Value.rename ρ)
  | .list vs => by simp [Value.rename, leaves_rename vs]
  | .tuple vs => by simp [Value.rename, leaves_rename vs]
  | .null | .bool _ | .int _ | .str _ | .bytes _ | .range _ | .iterator _ | .shape _
  | .dict _ | .function _ | .applied _ _ _ | .context _ => rfl

/-- The leaves of several templates are the same ones. -/
theorem Template.leaves_rename : ∀ vs : List Value,
    leaves (vs.map (Value.rename ρ)) = (leaves vs).map (Value.rename ρ)
  | [] => rfl
  | v :: vs => by simp [leavesOf_rename v, leaves_rename vs]

end

mutual

/-- The part of a value that keeps it from being a key is the same one. -/
theorem Value.unhashablePart?_rename : ∀ v : Value,
    (v.rename ρ).unhashablePart? = v.unhashablePart?.map (Value.rename ρ)
  | .list _ => rfl
  | .tuple vs => by simp [Value.rename, Value.unhashablePart?, unhashableAmong?_rename vs]
  | .null | .bool _ | .int _ | .str _ | .bytes _ | .range _ | .iterator _ | .shape _
  | .dict _ | .function _ | .applied _ _ _ | .context _ => rfl

/-- The first such part among several values is the same one. -/
theorem unhashableAmong?_rename : ∀ vs : List Value,
    unhashableAmong? (vs.map (Value.rename ρ)) = (unhashableAmong? vs).map (Value.rename ρ)
  | [] => rfl
  | v :: vs => by
    simp [unhashableAmong?, v.unhashablePart?_rename, unhashableAmong?_rename vs, Option.map_or]

end


namespace Value

variable (v : Value)

/-- The type of a value does not depend on identities. -/
@[simp] theorem typeName_rename : (v.rename ρ).typeName = v.typeName := by
  cases v <;> rfl

/-- Nor does the name by which a message calls it. -/
@[simp] theorem qualifiedTypeName_rename :
    (v.rename ρ).qualifiedTypeName = v.qualifiedTypeName := by
  cases v <;> rfl

/-- Nor does the truth of a value. -/
@[simp] theorem truthy_rename : (v.rename ρ).truthy = v.truthy := by
  cases v <;> simp [rename, truthy]

/-- What can be called still can. -/
@[simp] theorem isCallable_rename : (v.rename ρ).isCallable = v.isCallable := by
  cases v <;> rfl

/-- What is expanded in a template still is. -/
@[simp] theorem isSequence_rename : (v.rename ρ).isSequence = v.isSequence := by
  cases v <;> rfl

@[simp] theorem isBytes_rename : (v.rename ρ).isBytes = v.isBytes := by
  cases v <;> rfl

@[simp] theorem isContext_rename : (v.rename ρ).isContext = v.isContext := by
  cases v <;> rfl

/-- Null is told from all else. -/
@[simp] theorem isNull_rename : (v.rename ρ).isNull = v.isNull := by
  cases v <;> rfl

/-- A text is the same text. -/
@[simp] theorem toText?_rename : (v.rename ρ).toText? = v.toText? := by
  cases v <;> rfl

/-- A number is the same number. -/
@[simp] theorem toInt?_rename : (v.rename ρ).toInt? = v.toInt? := by
  cases v <;> rfl

/-- A shape is the same shape. -/
@[simp] theorem toShape_rename : (v.rename ρ).toShape = v.toShape := by
  cases v <;> rfl

/-- A context is the renamed context. -/
@[simp] theorem toContext?_rename :
    (v.rename ρ).toContext? = v.toContext?.map (Context.rename ρ) := by
  cases v <;> rfl

/-- The elements that are at hand are the same ones. -/
theorem elements?_rename : (v.rename ρ).elements? = v.elements?.map (List.map (rename ρ)) := by
  cases v <;> simp [rename, elements?, characters, Function.comp_def]

/-- What a callable declares does not depend on identities. -/
@[simp] theorem signature?_rename : (v.rename ρ).signature? = v.signature? := by
  cases v <;> simp [rename, signature?]

/-- Neither does its arity. -/
@[simp] theorem arity_rename : (v.rename ρ).arity = v.arity := by
  rw [arity, arity, signature?_rename]

/-- So neither does the shape that is read off it. -/
@[simp] theorem detectShape_rename (mode : Mode) :
    (v.rename ρ).detectShape mode = v.detectShape mode := by
  rw [detectShape, detectShape, arity_rename]

/-- Binding arguments gives the same callable, under the new identity. -/
theorem bindLeading?_rename (id : Nat) (leading : List Value) :
    (v.rename ρ).bindLeading? (ρ.id id) (leading.map (rename ρ)) =
      (v.bindLeading? id leading).map (rename ρ) := by
  cases v <;> simp [rename, bindLeading?]

/-- The text of a value is the same, written or not. -/
@[simp] theorem text_rename : (v.rename ρ).text = v.text := by
  cases v with
  | str _ => rfl
  | shape _ => rfl
  | _ => exact source_rename ρ _

end Value

namespace Failure

/-- A failure with new identities in the values that it names. -/
def rename (ρ : Renaming) : Failure → Failure
  | .raised kind message => .raised kind (message.rename ρ)
  | .notCallable v => .notCallable (v.rename ρ)
  | .notIterable items => .notIterable (items.rename ρ)
  | .missingAttribute v name => .missingAttribute (v.rename ρ) name
  | .notText leaf result => .notText (leaf.rename ρ) (result.rename ρ)
  | .notJoinableText position result => .notJoinableText position (result.rename ρ)
  | .notJoinableBytes position result => .notJoinableBytes position (result.rename ρ)
  | .attributeName name => .attributeName (name.rename ρ)
  | .unknownTag tag => .unknownTag (tag.rename ρ)
  | .unknownShape name => .unknownShape (name.rename ρ)
  | .missingKey key => .missingKey (key.rename ρ)
  | .unhashable part => .unhashable (part.rename ρ)
  | .unsized v => .unsized (v.rename ρ)
  | .unordered a b => .unordered (a.rename ρ) (b.rename ρ)
  | .uncombinable operator a b => .uncombinable operator (a.rename ρ) (b.rename ρ)
  | .notConcatenable a b => .notConcatenable (a.rename ρ) (b.rename ρ)
  | .unplaced v => .unplaced (v.rename ρ)
  | .notInteger v => .notInteger (v.rename ρ)
  | .notRepetition count => .notRepetition (count.rename ρ)
  | .digitsNotText v => .digitsNotText (v.rename ρ)
  | e => e

variable (e : Failure)

/-- The kind of a failure is told by its cause. -/
theorem kind_rename : (e.rename ρ).kind = e.kind := by
  cases e <;> rfl

/-- Whether a failure is the sign of an end is told by its kind. -/
theorem iterated_rename : (e.rename ρ).iterated = e.iterated.rename ρ := by
  rw [iterated, iterated, endsIteration, endsIteration, kind_rename]
  split
  · rfl
  · rfl

/-- The quoted name of a type does not depend on identities. -/
theorem quotedType_rename (v : Value) : quotedType (v.rename ρ) = quotedType v :=
  congrArg Text.quoted (v.qualifiedTypeName_rename ρ)

/-- What a message calls a value by is its type. -/
theorem subject_rename (v : Value) : subject (v.rename ρ) = subject v :=
  congrArg (· ++ " object") (quotedType_rename ρ v)

/-- A message tells a key by its text. -/
theorem keyText_rename (key : Value) : keyText (key.rename ρ) = keyText key := by
  cases key with
  | str _ => rfl
  | _ => exact Value.source_rename ρ _

/-- A message tells what was given instead of a text by its type. -/
theorem givenType_rename (v : Value) : givenType (v.rename ρ) = givenType v := by
  rw [givenType, givenType, v.isNull_rename, v.source_rename, v.qualifiedTypeName_rename]

/-- The text of a failure that a script raises does not show identities. -/
theorem raisedText_rename (kind : String) (m : Value) :
    raisedText kind (m.rename ρ) = raisedText kind m := by
  rw [raisedText, raisedText, keyText_rename, m.text_rename]

/-- A message tells what cannot be put together by types. -/
theorem concatenationText_rename (a b : Value) :
    concatenationText (a.rename ρ) (b.rename ρ) = concatenationText a b := by
  rw [concatenationText, concatenationText, a.isBytes_rename, a.qualifiedTypeName_rename,
    b.qualifiedTypeName_rename]

/-- The message names values by texts and types only. -/
theorem message_rename : (e.rename ρ).message = e.message := by
  cases e with
  | raised kind m => exact raisedText_rename ρ kind m
  | notCallable v => exact congrArg (· ++ " is not callable") (subject_rename ρ v)
  | notIterable items => exact congrArg (· ++ " is not iterable") (subject_rename ρ items)
  | missingAttribute v name =>
    exact congrArg (· ++ " has no attribute '" ++ name ++ "'") (subject_rename ρ v)
  | notText leaf result =>
    show "template " ++ (leaf.rename ρ).source ++ " rendered " ++ (result.rename ρ).typeName ++
      ", expected str" = _
    rw [leaf.source_rename, result.typeName_rename]
    rfl
  | notJoinableText position result =>
    exact congrArg (fun t => "sequence item " ++ toString position ++
      ": expected str instance, " ++ t ++ " found") (result.qualifiedTypeName_rename ρ)
  | notJoinableBytes position result =>
    exact congrArg (fun t => "sequence item " ++ toString position ++
      ": expected a bytes-like object, " ++ t ++ " found") (result.qualifiedTypeName_rename ρ)
  | attributeName name =>
    exact congrArg ("attribute name must be string, not " ++ ·) (quotedType_rename ρ name)
  | unknownTag tag => exact congrArg (· ++ " is not a valid CallbackShape") (tag.source_rename ρ)
  | unknownShape name => exact keyText_rename ρ name
  | missingKey key => exact key.source_rename ρ
  | unhashable part =>
    exact congrArg ("unhashable type: '" ++ · ++ "'") (part.typeName_rename ρ)
  | unsized v => exact congrArg ("object of type " ++ · ++ " has no len()") (quotedType_rename ρ v)
  | unordered a b =>
    show "'<' not supported between instances of " ++ quotedType (a.rename ρ) ++ " and " ++
      quotedType (b.rename ρ) = _
    rw [quotedType_rename, quotedType_rename]
    rfl
  | uncombinable operator a b =>
    show "unsupported operand type(s) for " ++ operator ++ ": " ++ quotedType (a.rename ρ) ++
      " and " ++ quotedType (b.rename ρ) = _
    rw [quotedType_rename, quotedType_rename]
    rfl
  | notConcatenable a b => exact concatenationText_rename ρ a b
  | unplaced v =>
    exact congrArg (fun b : Bool => "not all arguments converted during " ++
      (if b then "bytes" else "string") ++ " formatting") (v.isBytes_rename ρ)
  | notInteger v =>
    exact congrArg (· ++ " cannot be interpreted as an integer") (subject_rename ρ v)
  | notRepetition count =>
    exact congrArg ("can't multiply sequence by non-int of type " ++ ·) (quotedType_rename ρ count)
  | digitsNotText v =>
    exact congrArg ("fromhex() argument must be str, not " ++ ·) (givenType_rename ρ v)
  | _ => rfl

/-- A failure shows the same values in its message. -/
theorem shown_rename : (e.rename ρ).shown = e.shown.map (Value.rename ρ) := by
  cases e <;> rfl

/-- What a failure shows does not depend on identities. -/
theorem settled_rename : (e.rename ρ).settled = e.settled.rename ρ := by
  rw [settled, settled, shown_rename]
  simp only [List.all_map, Function.comp_def, Value.isWritable_rename]
  split <;> rfl

end Failure

end

end Stencil
