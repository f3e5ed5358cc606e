import PartitionRouting.AddressBook
import PartitionRouting.Assignment.Registry
import PartitionRouting.Json.Decode

/-!
# Snapshots of assignments

A snapshot is a document with the assignments of all datasets and the endpoints of the
nodes.  Nodes are the keys of maps there: a key is the decimal number of the node,
written without escapes.

## Main definitions

* `Snapshot` — assignments and endpoints.
* `Snapshot.ofDocument?` — the snapshot of a document.
* `Snapshot.registry` — a registry with the assignments of a snapshot.
-/

namespace PartitionRouting

open Std Json

/-- The assignments of all datasets and the endpoints of the nodes. -/
structure Snapshot where
  /-- The assignment of each dataset. -/
  datasets : ExtTreeMap String NodeAssignment
  /-- The endpoint of each node. -/
  endpoints : AddressBook

namespace Snapshot

/-- The largest 32-bit number. -/
def wordLimit : Nat := UInt32.size - 1

/-- The node that a key of a map stands for. -/
def nodeOfKey? (key : Spelling) : Option NodeId := do
  let digits ← key.plain?
  (wholeWithin? wordLimit digits).map Nat.toUInt32

/-- The partition that a value stands for. -/
def partitionOfValue? (v : Value) : Option PartitionId :=
  (v.natural? wordLimit).map Nat.toUInt32

/-- The entry of a map with its key and value decoded. -/
def entryOf? {α β : Type} (key? : Spelling → Option α) (value? : Value → Option β)
    (entry : Spelling × Value) : Option (α × β) := do
  return (← key? entry.1, ← value? entry.2)

/-- The partitions in the list that a value stands for. -/
def partitionsOfValue? (v : Value) : Option (List PartitionId) := do
  (← v.items?).mapM partitionOfValue?

/-- The assignment of one dataset that a value stands for. -/
def assignmentOfValue? (v : Value) : Option NodeAssignment := do
  let entries ← (← v.entries?).mapM (entryOf? nodeOfKey? partitionsOfValue?)
  return NodeAssignment.ofEntries entries

/-- The assignments of all datasets that a value stands for. -/
def datasetsOfValue? (v : Value) : Option (ExtTreeMap String NodeAssignment) := do
  let entries ← (← v.entries?).mapM (entryOf? Spelling.text? assignmentOfValue?)
  return entries.foldl (fun m e => m.insert e.1 e.2) ∅

/-- The endpoints that a value stands for. -/
def endpointsOfValue? (v : Value) : Option AddressBook := do
  let entries ← (← v.entries?).mapM (entryOf? nodeOfKey? Value.text?)
  return AddressBook.ofPairs entries

/-- The names of the parts of a snapshot, in order. -/
def fieldNames : List String := ["datasets", "endpoints"]

/-- The snapshot that a value stands for; both parts must be given. -/
def ofValue? (v : Value) : Option Snapshot := do
  let fields ← v.fields? fieldNames
  match fields with
  | [datasets, endpoints] =>
    return {
      datasets := ← field? none datasetsOfValue? datasets
      endpoints := ← field? none endpointsOfValue? endpoints }
  | _ => none

/-- The snapshot of a document. -/
def ofDocument? (document : String) : Option Snapshot := do
  let v ← Json.read? document
  ofValue? v

/-- A registry with the assignments of a snapshot. -/
def registry (s : Snapshot) : Attempt Registry := Registry.setAll ∅ s.datasets.toList

end Snapshot
end PartitionRouting
