import PartitionRouting.Json.Reader

/-!
# Records, maps and numbers in a document

A record with named fields may be written as an object, whose other members are
ignored and none of whose fields may occur twice, or as an array of its first fields
in order.  A map is an object with free keys; of members with one key the last counts.

## Main definitions

* `Json.Value.text?`, `natural?`, `items?` — texts, bounded numbers and lists.
* `Json.Value.fields?` — the fields of a record.
* `Json.Value.entries?` — the members of a map.
-/

namespace PartitionRouting
namespace Json

/-- The number that `cs` is, if it is whole, without sign, and at most `limit`. -/
def wholeWithin? (limit : Nat) (cs : List Char) : Option Nat :=
  (whole? cs).filter (· ≤ limit)

/-- The values of the fields `names` among the members of an object, where a field that
does not occur has none.  A field that occurs twice is refused, and so is a key that is
no text. -/
def memberFields? (names : List String) (members : List (Spelling × Value)) :
    Option (List (Option Value)) := do
  let members ← members.mapM fun m => (m.1.text?).map fun key => (key, m.2)
  names.mapM fun name =>
    match members.filter (·.1 = name) with
    | [] => some none
    | [m] => some (some m.2)
    | _ => none

/-- The values of the first of `count` fields, where the others have none.  More values
than fields are refused. -/
def itemFields? (count : Nat) (items : List Value) : Option (List (Option Value)) :=
  if items.length ≤ count then
    some (items.map some ++ List.replicate (count - items.length) none)
  else none

namespace Value

/-- The text of a string. -/
def text? : Value → Option String
  | string s => s.text?
  | _ => none

/-- The value of a whole number between zero and `limit`. -/
def natural? (limit : Nat) : Value → Option Nat
  | number digits => wholeWithin? limit digits
  | _ => none

/-- The items of an array. -/
def items? : Value → Option (List Value)
  | array items => some items
  | _ => none

/-- The members of a map, in order. -/
def entries? : Value → Option (List (Spelling × Value))
  | object members => some members
  | _ => none

/-- The values of the fields of a record, in the order of their names. -/
def fields? (names : List String) : Value → Option (List (Option Value))
  | object members => memberFields? names members
  | array items => itemFields? names.length items
  | _ => none

end Value

/-- The value of a field, or what stands for a field that does not occur. -/
def field? {α : Type} (absent : Option α) (decode : Value → Option α) :
    Option Value → Option α
  | none => absent
  | some v => decode v

end Json
end PartitionRouting
