import PartitionRouting.Json.Syntax

/-!
# Tokens of a JSON document

A document is scanned once, character by character.  Between tokens there may be
blanks; a word is a longest run of characters that literals and numbers are made of;
a string reaches to the first quote that is not escaped and holds no control.

## Main definitions

* `Json.Token` — the tokens.
* `Json.isNumber` — the number grammar.
* `Json.Mode`, `Json.Mode.step`, `Json.tokens?` — the scan.
-/

namespace PartitionRouting
namespace Json

/-- A token of a document. -/
inductive Token
  | openObject
  | closeObject
  | openArray
  | closeArray
  | colon
  | comma
  | null
  | bool (b : Bool)
  | number (digits : List Char)
  | string (s : Spelling)
  deriving DecidableEq, Repr

/-! ### Numbers -/

/-- Whether `cs` is a run of digits, at least one. -/
def isDigits (cs : List Char) : Bool := !cs.isEmpty && cs.all Char.isDigit

/-- Whether `cs` is a whole number without sign: zero, or digits without a leading zero. -/
def isWhole (cs : List Char) : Bool := isDigits cs && (cs.head? != some '0' || cs = ['0'])

/-- Whether `cs` is nothing, or an exponent: its letter, a sign if it has one, and digits. -/
def isExponent : List Char → Bool
  | [] => true
  | e :: rest =>
    (e == 'e' || e == 'E') &&
      match rest with
      | '+' :: digits => isDigits digits
      | '-' :: digits => isDigits digits
      | digits => isDigits digits

/-- Whether `cs` is what may follow the whole part of a number. -/
def isNumberTail : List Char → Bool
  | '.' :: rest =>
    isDigits (rest.takeWhile Char.isDigit) && isExponent (rest.dropWhile Char.isDigit)
  | cs => isExponent cs

/-- Whether `cs` is a number without sign. -/
def isUnsigned (cs : List Char) : Bool :=
  isWhole (cs.takeWhile Char.isDigit) && isNumberTail (cs.dropWhile Char.isDigit)

/-- Whether `cs` is a number. -/
def isNumber : List Char → Bool
  | '-' :: rest => isUnsigned rest
  | cs => isUnsigned cs

/-- The value of a run of digits. -/
def digitsValue (cs : List Char) : Nat :=
  cs.foldl (fun n c => 10 * n + (c.toNat - '0'.toNat)) 0

/-- The value of a whole number without sign. -/
def whole? (cs : List Char) : Option Nat := if isWhole cs then some (digitsValue cs) else none

/-! ### Single characters -/

/-- Whether `c` may stand between tokens. -/
def isBlank (c : Char) : Bool := c == ' ' || c == '\t' || c == '\n' || c == '\r'

/-- Whether `c` may be part of a literal or a number. -/
def isWordChar (c : Char) : Bool := c.isAlphanum || c == '+' || c == '-' || c == '.'

/-- The token that a single character is. -/
def punctuation? : Char → Option Token
  | '\x7b' => some .openObject
  | '\x7d' => some .closeObject
  | '[' => some .openArray
  | ']' => some .closeArray
  | ':' => some .colon
  | ',' => some .comma
  | _ => none

/-- The token of a word. -/
def wordToken? (cs : List Char) : Option Token :=
  if cs = ['n', 'u', 'l', 'l'] then some .null
  else if cs = ['t', 'r', 'u', 'e'] then some (.bool true)
  else if cs = ['f', 'a', 'l', 's', 'e'] then some (.bool false)
  else if isNumber cs then some (.number cs)
  else none

/-- The character that a letter after a backslash stands for. -/
def shortEscape? : Char → Option Char
  | '"' => some '"'
  | '\\' => some '\\'
  | '/' => some '/'
  | 'b' => some '\x08'
  | 'f' => some '\x0c'
  | 'n' => some '\n'
  | 'r' => some '\r'
  | 't' => some '\t'
  | _ => none

/-- The value of a hexadecimal digit of either case. -/
def hexValue? (c : Char) : Option Nat :=
  if c.isDigit then some (c.toNat - '0'.toNat)
  else if 'a' ≤ c ∧ c ≤ 'f' then some (c.toNat - 'a'.toNat + 10)
  else if 'A' ≤ c ∧ c ≤ 'F' then some (c.toNat - 'A'.toNat + 10)
  else none

/-! ### The scan -/

/-- Where the scan stands.  What has been read of a token is kept latest first. -/
inductive Mode
  /-- Between tokens. -/
  | between
  /-- In a word. -/
  | word (read : List Char)
  /-- In a string. -/
  | string (read : List Piece)
  /-- After a backslash in a string. -/
  | escape (read : List Piece)
  /-- Before the last `missing + 1` digits of a unit in a string. -/
  | unit (read : List Piece) (code missing : Nat)
  deriving DecidableEq, Repr

namespace Mode

/-- One character further, from between tokens: a token if one ends, and the new mode. -/
def stepBetween (c : Char) : Option (List Token × Mode) :=
  if isBlank c then some ([], between)
  else if c = '"' then some ([], string [])
  else if isWordChar c then some ([], word [c])
  else (punctuation? c).map fun t => ([t], between)

/-- One character further: the tokens that end, and the new mode. -/
def step (c : Char) : Mode → Option (List Token × Mode)
  | between => stepBetween c
  | word read =>
    if isWordChar c then some ([], word (c :: read))
    else do
      let token ← wordToken? read.reverse
      let (tokens, mode) ← stepBetween c
      return (token :: tokens, mode)
  | string read =>
    if c = '"' then some ([.string read.reverse], between)
    else if c = '\\' then some ([], escape read)
    else if c.toNat < 0x20 then none
    else some ([], string (.plain c :: read))
  | escape read =>
    if c = 'u' then some ([], unit read 0 3)
    else (shortEscape? c).map fun e => ([], string (.short e :: read))
  | unit read code missing => do
    let digit ← hexValue? c
    let code := 16 * code + digit
    match missing with
    | 0 => return ([], string (.unit code.toUInt16 :: read))
    | missing + 1 => return ([], unit read code missing)

/-- The token that ends with the document. -/
def finish : Mode → Option (List Token)
  | between => some []
  | word read => (wordToken? read.reverse).map fun t => [t]
  | _ => none

/-- The tokens of the rest of a document. -/
def scan : Mode → List Char → Option (List Token)
  | mode, [] => mode.finish
  | mode, c :: rest => do
    let (tokens, mode) ← mode.step c
    let more ← scan mode rest
    return tokens ++ more

end Mode

/-- The tokens of a document. -/
def tokens? (document : List Char) : Option (List Token) := Mode.between.scan document

end Json
end PartitionRouting
