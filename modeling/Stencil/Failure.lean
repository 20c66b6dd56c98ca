import Stencil.Signature.Order
import Stencil.Value.Text
import Stencil.Value.Writable

/-!
# Failures

A failure names its cause. Its kind and message, which is all that is shown of it, are computed from
the cause by `Failure.kind` and `Failure.message`. A message that would hold an integer too long to
be written gives way to the failure that says so (`Failure.settled`).
-/

namespace Stencil

/-- Why an action failed. -/
inductive Failure where
  /-- A script failed on purpose. -/
  | raised (kind : String) (message : Value)
  /-- A function has a parameter list that cannot be declared. -/
  | undeclarable (cause : SignatureFault)
  /-- The arguments of a call do not bind. -/
  | unbound (cause : BindError)
  /-- A value that is no callable was called. -/
  | notCallable (v : Value)
  /-- A value that is no callable was to have arguments bound. -/
  | notBindable
  /-- Arguments were to be bound, but no callable was given. -/
  | nothingToBind
  /-- A value without elements was to be walked over. -/
  | notIterable (items : Value)
  /-- A value lacks the attribute or operation that was asked of it. -/
  | missingAttribute (v : Value) (name : String)
  /-- A leaf rendered something that is neither a text nor null. -/
  | notText (leaf result : Value)
  /-- The kept result at a position cannot stand between separators that are texts. -/
  | notJoinableText (position : Nat) (result : Value)
  /-- The kept result at a position cannot stand between separators that are byte strings. -/
  | notJoinableBytes (position : Nat) (result : Value)
  /-- A join made a byte string, which cannot follow the text of the opening. -/
  | bytesAfterText
  /-- A context was used as a separator. -/
  | contextSeparator
  /-- An attribute was named by something that is no text. -/
  | attributeName (name : Value)
  /-- A change to a field of a context. -/
  | fieldAssigned (name : String)
  /-- The removal of a field of a context. -/
  | fieldDeleted (name : String)
  /-- An operation on contexts got something else. -/
  | notContext
  /-- No shape has the tag. -/
  | unknownTag (tag : Value)
  /-- No shape has the name. -/
  | unknownShape (name : Value)
  /-- A one-shot iterator was asked for an element while it evaluates one. -/
  | iteratorRunning
  /-- The sign that an iteration is at its end was given in the middle of one. -/
  | brokenIteration
  /-- No step has the name. -/
  | unknownVariable (name : String)
  /-- A function call has no argument in the place. -/
  | noArgument (place : Int)
  /-- A dictionary lacks the key. -/
  | missingKey (key : Value)
  /-- The last of no operands was asked for. -/
  | noLastOperand
  /-- An integer that has too many digits to be written was to be part of a text. -/
  | unwritable
  /-- No element is in the place. -/
  | indexOutOfRange
  /-- A look-up that the operands do not allow. -/
  | badLookup
  /-- A value cannot be a key because of the given part. -/
  | unhashable (part : Value)
  /-- A value has no number of elements. -/
  | unsized (v : Value)
  /-- There are more elements than a machine word counts. -/
  | uncountable
  /-- A number of repetitions does not fit a machine word. -/
  | unboundedRepetition
  /-- There are more elements than can be stored. -/
  | outOfMemory
  /-- Two values have no order. -/
  | unordered (a b : Value)
  /-- Two values cannot be combined by the operator. -/
  | uncombinable (operator : String) (a b : Value)
  /-- A value cannot follow a text or other sequence. -/
  | notConcatenable (a b : Value)
  /-- An operand of a text or byte string that has no place for it. -/
  | unplaced (v : Value)
  /-- A remainder by zero. -/
  | moduloByZero
  /-- A value does not stand for an integer. -/
  | notInteger (v : Value)
  /-- A value does not say how often an element is to be repeated. -/
  | notRepetition (count : Value)
  /-- A progression in steps of zero. -/
  | zeroStep
  /-- A progression has one to three bounds, not as many as given. -/
  | rangeBounds (given : Nat)
  /-- A text has something other than a hexadecimal digit in the place. -/
  | notHexadecimal (place : Nat)
  /-- Hexadecimal digits were expected in a text. -/
  | digitsNotText (v : Value)
  /-- Parameters of a declared operation got no operand. -/
  | missingOperands (operation : String) (parameters : List String)
  /-- A declared operation, which takes from `least` to `most` operands, got more. -/
  | surplusOperands (operation : String) (least most given : Nat)
  /-- An operation does not take operands of this number or type. -/
  | badOperands
  /-- Calls are nested too deeply. -/
  | tooDeep

namespace Failure

/-- The kind of a failure. -/
def kind : Failure → String
  | .raised kind _ => kind
  | .missingAttribute _ _ => "AttributeError"
  | .fieldAssigned _ | .fieldDeleted _ => "FrozenInstanceError"
  | .uncountable | .unboundedRepetition => "OverflowError"
  | .outOfMemory => "MemoryError"
  | .undeclarable .unnamed => "IndexError"
  | .unknownTag _ | .iteratorRunning | .zeroStep | .notHexadecimal _ | .undeclarable _
  | .unwritable => "ValueError"
  | .unknownShape _ | .unknownVariable _ | .missingKey _ => "KeyError"
  | .noArgument _ | .noLastOperand | .indexOutOfRange => "IndexError"
  | .moduloByZero => "ZeroDivisionError"
  | .tooDeep => "RecursionError"
  | .brokenIteration => "RuntimeError"
  | .unbound _ | .notCallable _ | .notBindable | .nothingToBind | .notIterable _ | .notText _ _
  | .notJoinableText _ _ | .notJoinableBytes _ _ | .bytesAfterText | .contextSeparator
  | .attributeName _ | .notContext | .badLookup | .unhashable _ | .unsized _ | .unordered _ _
  | .uncombinable _ _ _ | .notConcatenable _ _ | .notInteger _ | .notRepetition _
  | .unplaced _ | .rangeBounds _ | .digitsNotText _ | .missingOperands _ _
  | .surplusOperands _ _ _ _ | .badOperands => "TypeError"

/-- The name of a value's type in quotes. -/
def quotedType (v : Value) : String :=
  Text.quoted v.qualifiedTypeName

/-- A type name in quotes, as the subject of a refusal. -/
def subject (v : Value) : String :=
  quotedType v ++ " object"

/-- Three or more names in a series, whose last is set off by a comma and a word. -/
def series : List String → String
  | [] => ""
  | [name] => "and " ++ name
  | name :: rest => name ++ ", " ++ series rest

/-- Names in a series. -/
def enumeration : List String → String
  | [] => ""
  | [name] => name
  | [first, second] => first ++ " and " ++ second
  | names => series names

/-- The mark of the plural, for some number of things. -/
def plural (n : Nat) : String :=
  if n == 1 then "" else "s"

/-- What is said of a call whose parameters with the given names stay empty. -/
def missingText (operation : String) (parameters : List String) : String :=
  operation ++ "() missing " ++ toString parameters.length ++ " required positional argument" ++
    plural parameters.length ++ ": " ++ enumeration (parameters.map Text.quoted)

/-- What is said of a call that takes from `least` to `most` arguments and got more. -/
def surplusText (operation : String) (least most given : Nat) : String :=
  let taken :=
    if least == most then toString most ++ " positional argument" ++ plural most
    else "from " ++ toString least ++ " to " ++ toString most ++ " positional arguments"
  operation ++ "() takes " ++ taken ++ " but " ++ toString given ++
    (if given == 1 then " was" else " were") ++ " given"

/-- What is said of a value that cannot follow another one. A byte string is refused in words of its
own. -/
def concatenationText (a b : Value) : String :=
  if a.isBytes then "can't concat " ++ b.qualifiedTypeName ++ " to " ++ a.qualifiedTypeName
  else
    "can only concatenate " ++ a.qualifiedTypeName ++ " (not \"" ++ b.qualifiedTypeName ++
      "\") to " ++ a.qualifiedTypeName

/-- The first natural number that does not fit a signed machine word. -/
def wordBound : Nat := Nat.pow 2 63

/-- Whether an integer fits a signed machine word. -/
def fitsWord (i : Int) : Bool :=
  -(wordBound : Int) ≤ i && i < wordBound

/-- What is said of a place or number that does not fit a machine word. -/
def unfitText : String :=
  "cannot fit 'int' into an index-sized integer"

/-- What is said of a parameter list that cannot be declared. -/
def undeclarableText : SignatureFault → String
  | .defaulted kind => kind.description ++ " parameters cannot have default values"
  | .unnamed => "string index out of range"
  | .misplacedImplicit kind =>
    "implicit arguments must be passed as positional or keyword arguments, not " ++
      kind.description
  | .misnamed name => Text.quoted name ++ " is not a valid parameter name"
  | .misordered later earlier =>
    "wrong parameter order: " ++ later.description ++ " parameter before " ++
      earlier.description ++ " parameter"
  | .requiredAfterDefault => "non-default argument follows default argument"
  | .repeated name => "duplicate parameter name: " ++ Text.quoted name

/-- The type name of what was given in place of digits; null is shown as itself. -/
def givenType (v : Value) : String :=
  if v.isNull then v.source else v.qualifiedTypeName

/-- What is said of a key that is not there. -/
def keyText : Value → String
  | .str name => name
  | key => key.source

/-- What a script says that fails on purpose. -/
def raisedText (kind : String) (message : Value) : String :=
  if kind == "KeyError" then keyText message else message.text

/-- The message of a failure. -/
def message : Failure → String
  | .raised kind message => raisedText kind message
  | .undeclarable cause => undeclarableText cause
  | .unbound .tooMany => "too many positional arguments"
  | .unbound (.missing name) => "missing a required argument: " ++ Text.quoted name
  | .unbound (.refused text) => text
  | .notCallable v => subject v ++ " is not callable"
  | .notBindable => "the first argument must be callable"
  | .nothingToBind => "type 'partial' takes at least one argument"
  | .notIterable items => subject items ++ " is not iterable"
  | .missingAttribute v name => subject v ++ " has no attribute '" ++ name ++ "'"
  | .notText leaf result =>
    "template " ++ leaf.source ++ " rendered " ++ result.typeName ++ ", expected str"
  | .notJoinableText position result =>
    "sequence item " ++ toString position ++ ": expected str instance, " ++
      result.qualifiedTypeName ++ " found"
  | .notJoinableBytes position result =>
    "sequence item " ++ toString position ++ ": expected a bytes-like object, " ++
      result.qualifiedTypeName ++ " found"
  | .bytesAfterText => "can only concatenate str (not \"bytes\") to str"
  | .contextSeparator => missingText "Context.join" ["separator", "callback"]
  | .attributeName name => "attribute name must be string, not " ++ quotedType name
  | .fieldAssigned name => "cannot assign to field " ++ Text.quoted name
  | .fieldDeleted name => "cannot delete field " ++ Text.quoted name
  | .notContext => "not a context"
  | .unknownTag tag => tag.source ++ " is not a valid CallbackShape"
  | .unknownShape name => keyText name
  | .iteratorRunning => "generator already executing"
  | .brokenIteration => "generator raised StopIteration"
  | .unknownVariable name => name
  | .noArgument place => if fitsWord place then "tuple index out of range" else unfitText
  | .noLastOperand => "tuple index out of range"
  | .missingKey key => key.source
  | .unwritable =>
    "Exceeds the limit (" ++ toString Value.digitLimit ++ " digits) for integer string " ++
      "conversion; use sys.set_int_max_str_digits() to increase the limit"
  | .indexOutOfRange => "index out of range"
  | .badLookup => "bad get"
  | .unhashable part => "unhashable type: '" ++ part.typeName ++ "'"
  | .unsized v => "object of type " ++ quotedType v ++ " has no len()"
  | .uncountable => "Python int too large to convert to C ssize_t"
  | .unboundedRepetition => unfitText
  | .outOfMemory => ""
  | .unordered a b =>
    "'<' not supported between instances of " ++ quotedType a ++ " and " ++ quotedType b
  | .uncombinable operator a b =>
    "unsupported operand type(s) for " ++ operator ++ ": " ++ quotedType a ++ " and " ++
      quotedType b
  | .notConcatenable a b => concatenationText a b
  | .unplaced v =>
    "not all arguments converted during " ++ (if v.isBytes then "bytes" else "string") ++
      " formatting"
  | .moduloByZero => "integer modulo by zero"
  | .notInteger v => subject v ++ " cannot be interpreted as an integer"
  | .notRepetition count => "can't multiply sequence by non-int of type " ++ quotedType count
  | .zeroStep => "range() arg 3 must not be zero"
  | .rangeBounds 0 => "range expected at least 1 argument, got 0"
  | .rangeBounds given => "range expected at most 3 arguments, got " ++ toString given
  | .notHexadecimal place =>
    "non-hexadecimal number found in fromhex() arg at position " ++ toString place
  | .digitsNotText v => "fromhex() argument must be str, not " ++ givenType v
  | .missingOperands operation parameters => missingText operation parameters
  | .surplusOperands operation least most given => surplusText operation least most given
  | .badOperands => "bad operands"
  | .tooDeep => "maximum recursion depth exceeded"

/-- The values that the message shows. -/
def shown : Failure → List Value
  | .raised _ message => [message]
  | .notText leaf _ => [leaf]
  | .unknownTag tag => [tag]
  | .unknownShape name => [name]
  | .missingKey key => [key]
  | _ => []

/-- The failure that comes of a failure when its message is written. -/
def settled (e : Failure) : Failure :=
  if e.shown.all Value.isWritable then e else .unwritable

/-- Whether a failure is the sign by which an iteration tells that it is at its end. -/
def endsIteration (e : Failure) : Bool :=
  e.kind == "StopIteration"

/-- What a failure becomes on its way out of an iteration. The sign of the end would be taken for
the end of this iteration, so it gives way to a failure that says where it was given. -/
def iterated (e : Failure) : Failure :=
  if e.endsIteration then .brokenIteration else e

end Failure

/-- The text of a value, where it can be written. -/
def Value.written (v : Value) : Except Failure String :=
  if v.isWritable then .ok v.text else .error .unwritable

/-- A value that can be written has its text. -/
theorem Value.written_of_isWritable {v : Value} (hv : v.isWritable = true) :
    v.written = .ok v.text := by
  simp [written, hv]

/-- Where a value is written, it is as its text. -/
theorem Value.text_of_written {v : Value} {text : String} (hv : v.written = .ok text) :
    v.text = text := by
  cases hwritable : v.isWritable with
  | true =>
    rw [written_of_isWritable hwritable] at hv
    exact Except.ok.inj hv
  | false => simp [written, hwritable] at hv

end Stencil
