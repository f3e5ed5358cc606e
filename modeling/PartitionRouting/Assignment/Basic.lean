import Std.Data.ExtTreeSet
import PartitionRouting.Lookup
import PartitionRouting.RoutingError

/-!
# Assignments

The assignment of a dataset says which partitions each of its nodes serves.  A
node may belong to a dataset without serving any of its partitions.

## Main definitions

* `NodeAssignment` — the nodes of one dataset, with the partitions of each.
* `DatasetAssignment` — the datasets of one node, with its partitions of each.
* `amend` — changes one entry of a map whose missing entries count as empty.
-/

namespace PartitionRouting

open Std

/-- The nodes of one dataset and the partitions that each of them serves. -/
abbrev NodeAssignment := ExtTreeMap NodeId (ExtTreeSet PartitionId)

/-- The datasets of one node and the partitions that it serves of each of them. -/
abbrev DatasetAssignment := ExtTreeMap String (ExtTreeSet PartitionId)

/-- The partitions of one dataset and the nodes that serve each of them. -/
abbrev PartitionAssignment := ExtTreeMap PartitionId (ExtTreeSet NodeId)

section Amend

variable {α β : Type} [Ord α] [TransOrd α] [EmptyCollection β]

/-- The entry at `k`, where a missing entry counts as empty. -/
def entryOrEmpty (m : ExtTreeMap α β) (k : α) : β := m[k]?.getD ∅

/-- Changes the entry at `k` by `f`, where a missing entry counts as empty. -/
def amend (m : ExtTreeMap α β) (k : α) (f : β → β) : ExtTreeMap α β :=
  m.insert k (f (entryOrEmpty m k))

theorem getElem?_amend [LawfulEqOrd α] [DecidableEq α] (m : ExtTreeMap α β) (k a : α)
    (f : β → β) :
    (amend m k f)[a]? = if a = k then some (f (entryOrEmpty m k)) else m[a]? :=
  getElem?_insert_eq_ite m k a (f (entryOrEmpty m k))

theorem entryOrEmpty_amend [LawfulEqOrd α] [DecidableEq α] (m : ExtTreeMap α β) (k a : α)
    (f : β → β) :
    entryOrEmpty (amend m k f) a =
      if a = k then f (entryOrEmpty m k) else entryOrEmpty m a := by
  rw [entryOrEmpty, getElem?_amend]
  split <;> rfl

end Amend

end PartitionRouting
