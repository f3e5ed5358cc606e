import PartitionRouting.Json.Token

/-!
# Reading a JSON document

The tokens of a document are read one by one, with a stack of the arrays and objects
that are still open.

## Main definitions

* `Json.Frame`, `Json.Reading` — an open array or object, and what has been read.
* `Json.Reading.step` — one token further.
* `Json.Value.ofTokens?`, `Json.read?` — the value of tokens, and of a document.
-/

namespace PartitionRouting
namespace Json

/-- An array or object that is still open.  What has been read is kept latest first. -/
inductive Frame
  /-- An array. -/
  | array (items : List Value)
  /-- An object. -/
  | object (members : List (Spelling × Value))
  /-- An object that waits for the value of a key. -/
  | member (members : List (Spelling × Value)) (key : Spelling)
  deriving Repr

/-- What may come next. -/
inductive Await
  /-- A value. -/
  | value
  /-- The first item of an array, or its end. -/
  | itemOrEnd
  /-- The first key of an object, or its end. -/
  | keyOrEnd
  /-- A key. -/
  | key
  /-- A colon. -/
  | colon
  /-- A comma, or the end of the innermost array or object. -/
  | commaOrEnd
  deriving DecidableEq, Repr

/-- How far a document has been read. -/
inductive Reading
  /-- The arrays and objects on the stack are open, the innermost first. -/
  | within (stack : List Frame) (next : Await)
  /-- The whole value has been read. -/
  | complete (v : Value)
  deriving Repr

namespace Reading

/-- Nothing has been read. -/
def start : Reading := within [] .value

/-- A value has been read inside the frames of the stack. -/
def close (v : Value) : List Frame → Option Reading
  | [] => some (complete v)
  | .array items :: stack => some (within (.array (v :: items) :: stack) .commaOrEnd)
  | .member members key :: stack =>
    some (within (.object ((key, v) :: members) :: stack) .commaOrEnd)
  | .object _ :: _ => none

/-- A token where a value may stand. -/
def stepValue (stack : List Frame) : Token → Option Reading
  | .null => close .null stack
  | .bool b => close (.bool b) stack
  | .number digits => close (.number digits) stack
  | .string s => close (.string s) stack
  | .openArray => some (within (.array [] :: stack) .itemOrEnd)
  | .openObject => some (within (.object [] :: stack) .keyOrEnd)
  | _ => none

/-- A token where a key may stand. -/
def stepKey : List Frame → Token → Option Reading
  | .object members :: stack, .string key => some (within (.member members key :: stack) .colon)
  | _, _ => none

/-- The end of the innermost array or object. -/
def stepEnd : List Frame → Token → Option Reading
  | .array items :: stack, .closeArray => close (.array items.reverse) stack
  | .object members :: stack, .closeObject => close (.object members.reverse) stack
  | _, _ => none

/-- The comma in the innermost array or object. -/
def stepComma : List Frame → Option Reading
  | .array items :: stack => some (within (.array items :: stack) .value)
  | .object members :: stack => some (within (.object members :: stack) .key)
  | _ => none

/-- One token further. -/
def step : Reading → Token → Option Reading
  | complete _, _ => none
  | within stack .value, token => stepValue stack token
  | within stack .itemOrEnd, token =>
    if token = .closeArray then stepEnd stack token else stepValue stack token
  | within stack .keyOrEnd, token =>
    if token = .closeObject then stepEnd stack token else stepKey stack token
  | within stack .key, token => stepKey stack token
  | within stack .colon, token => if token = .colon then some (within stack .value) else none
  | within stack .commaOrEnd, token =>
    if token = .comma then stepComma stack else stepEnd stack token

/-- The value, if the whole of it has been read. -/
def value? : Reading → Option Value
  | complete v => some v
  | within _ _ => none

end Reading

/-- The value that a list of tokens is. -/
def Value.ofTokens? (tokens : List Token) : Option Value := do
  let reading ← tokens.foldlM Reading.step Reading.start
  reading.value?

/-- The value of a document. -/
def read? (document : String) : Option Value := do
  let tokens ← tokens? document.toList
  Value.ofTokens? tokens

end Json
end PartitionRouting
