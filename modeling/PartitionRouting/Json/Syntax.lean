/-!
# Values of a JSON document

A document is kept as it is written, up to blanks: of a string the escapes are kept,
of a number its digits, of an object the order and repetitions of its members.  What
they stand for is asked later, and only where it matters.

## Main definitions

* `Json.Piece`, `Json.Spelling` — a written string, piece by piece.
* `Json.Spelling.text?` — the text that it stands for.
* `Json.Value` — a value.
-/

namespace PartitionRouting
namespace Json

/-- A piece of a written string. -/
inductive Piece
  /-- A character written as itself. -/
  | plain (c : Char)
  /-- A character written by its own escape of two characters. -/
  | short (c : Char)
  /-- A 16-bit unit written by its four hexadecimal digits. -/
  | unit (code : UInt16)
  deriving DecidableEq, Repr

/-- A string as it is written. -/
abbrev Spelling := List Piece

/-- Whether a unit is the first half of a character beyond the basic plane. -/
def isHighHalf (code : UInt16) : Bool := 0xd800 ≤ code && code < 0xdc00

/-- Whether a unit is the second half of a character beyond the basic plane. -/
def isLowHalf (code : UInt16) : Bool := 0xdc00 ≤ code && code < 0xe000

/-- The character of two halves. -/
def joinHalves (high low : UInt16) : Char :=
  Char.ofNat (0x10000 + (high.toNat - 0xd800) * 0x400 + (low.toNat - 0xdc00))

/-- The characters that a written string stands for; none if a half stands alone. -/
def Spelling.chars? : Spelling → Option (List Char)
  | [] => some []
  | .plain c :: rest => (chars? rest).map (c :: ·)
  | .short c :: rest => (chars? rest).map (c :: ·)
  | .unit high :: .unit low :: rest =>
    if isHighHalf high && isLowHalf low then (chars? rest).map (joinHalves high low :: ·)
    else if isHighHalf high || isLowHalf high then none
    else (chars? (.unit low :: rest)).map (Char.ofNat high.toNat :: ·)
  | .unit code :: rest =>
    if isHighHalf code || isLowHalf code then none
    else (chars? rest).map (Char.ofNat code.toNat :: ·)

/-- The text that a written string stands for. -/
def Spelling.text? (s : Spelling) : Option String := (chars? s).map String.ofList

/-- The characters of a string that is written without escapes. -/
def Spelling.plain? : Spelling → Option (List Char)
  | [] => some []
  | .plain c :: rest => (plain? rest).map (c :: ·)
  | _ :: _ => none

/-- A value of a document. -/
inductive Value
  | null
  | bool (b : Bool)
  /-- A number, by its characters. -/
  | number (digits : List Char)
  | string (s : Spelling)
  | array (items : List Value)
  /-- An object, by its members in order. -/
  | object (members : List (Spelling × Value))
  deriving Repr

end Json
end PartitionRouting
