import PartitionRouting.Text.Quoted

/-!
# Written records

A record is written as its name and, in braces, its fields in order, each as a
label, a colon and a value: `Point { x: 1, y: 2 }`.

## Main definitions

* `recordText` — the written form of a record.
-/

namespace PartitionRouting
namespace Text

/-- The fields of a record as they stand between its braces. -/
def fieldTexts (fields : List (String × String)) : List String :=
  fields.map fun f => f.1 ++ ": " ++ f.2

/-- The written form of the record `name` with the given labels and values. -/
def recordText (name : String) (fields : List (String × String)) : String :=
  name ++ " \x7b " ++ commaSeparated (fieldTexts fields) ++ " \x7d"

end Text
end PartitionRouting
