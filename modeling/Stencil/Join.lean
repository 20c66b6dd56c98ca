import Stencil.Feed
import Stencil.Render

/-!
# Joins

A join calls a callback for every entry of its items, each in a child context of its own, and puts a
separator between the results. Null results are left out. Only when something was kept are the
opening and the closing rendered, in the context of the join itself: the opening before the results
are put together, the closing after.
-/

namespace Stencil

/-- The parts of a join besides its context and items. -/
structure JoinSpec where
  /-- What stands between the results. -/
  separator : Value
  /-- What is called for each entry. -/
  callback : Value
  /-- The template in front of the results. -/
  opening : Value
  /-- The template behind the results. -/
  closing : Value
  /-- The argument list of the callback; null to read it off the callback. -/
  shape : Value

namespace JoinSpec

/-- The shape that is used in a mode. -/
def resolveShape (spec : JoinSpec) (mode : Mode) : Shape :=
  if spec.shape.isNull then spec.callback.detectShape mode else spec.shape.toShape

end JoinSpec

/-- The first result that a test refuses, with its position. -/
def firstRefused? (accepts : Value → Bool) (results : List Value) : Option (Value × Nat) :=
  results.zipIdx.find? fun r => !accepts r.1

/-- The results with the separator between them. Only a separator that is a text can succeed, and
only on results that all are texts. -/
def joinResults (separator : Value) (results : List Value) : Except Failure String :=
  match separator with
  | .str s =>
    match firstRefused? (fun r => r.toText?.isSome) results with
    | some (r, i) => .error (.notJoinableText i r)
    | none => .ok (s.intercalate (results.filterMap Value.toText?))
  | .bytes _ =>
    match firstRefused? Value.isBytes results with
    | some (r, i) => .error (.notJoinableBytes i r)
    | none => .error .bytesAfterText
  | .context _ => .error .contextSeparator
  | v => .error (.missingAttribute v "join")

namespace Context

/-- The context in which an entry is rendered. -/
def child (id : Nat) (c : Context) (entry : Entry) : Context :=
  new id entry.item (some c) (.int entry.index) (.str entry.name)

/-- Calls a callback for an entry in a child context. -/
def visit (h : Host) (c : Context) (callback : Value) (shape : Shape) (entry : Entry) :
    Action Value := do
  let id ← Action.freshId
  callback.callShaped h shape (.context (c.child id entry)) (.int entry.index) (.str entry.name)
    entry.item

/-- Puts the kept results together, between opening and closing. -/
def assemble (h : Host) (c : Context) (spec : JoinSpec) (kept : List Value) : Action String := do
  if kept.isEmpty then
    pure ""
  else
    let opening ← c.render h [spec.opening]
    let body ← Action.ofExcept (joinResults spec.separator kept)
    let closing ← c.render h [spec.closing]
    pure (opening ++ body ++ closing)

/-- Joins over the entries of a feed. -/
def joinFeed (h : Host) (c : Context) (feed : Feed) (spec : JoinSpec) (shape : Shape) :
    Action String := do
  let kept ← feed.collect (c.visit h spec.callback shape)
  c.assemble h spec kept

/-- Joins over items by position. -/
def joinSequence (h : Host) (c : Context) (items : Value) (spec : JoinSpec) : Action String := do
  let feed ← Feed.sequence h items
  c.joinFeed h feed spec (spec.resolveShape .sequence)

/-- Joins over items by key. -/
def joinMapping (h : Host) (c : Context) (items : Value) (spec : JoinSpec) : Action String := do
  let feed ← Feed.mapping items
  c.joinFeed h feed spec (spec.resolveShape .mapping)

/-- Joins over items: dictionaries by key, null as nothing, all else by position. -/
def join (h : Host) (c : Context) (items : Value) (spec : JoinSpec) : Action String :=
  match items with
  | .null => pure ""
  | .dict entries => c.joinMapping h (.dict entries) spec
  | items => c.joinSequence h items spec

end Context

end Stencil
