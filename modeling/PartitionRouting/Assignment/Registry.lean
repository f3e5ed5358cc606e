import PartitionRouting.Assignment.Views
import PartitionRouting.Logged

/-!
# The assignment registry

The registry holds the assignment of every dataset.  It is written dataset by
dataset and read by dataset, by node and by partition; a read that finds nothing
says what is missing and reports it.

## Main definitions

* `Registry` — the registry; `∅` holds no dataset.
* `Registry.setAssignment`, `deleteAssignment`, `addPartition`, `setAll` — the writes.
* `Registry.partitions`, `nodeAssignment`, `datasetAssignment`, `nodesForPartition`,
  `datasets` — the reads.
* `Registry.Write`, `Registry.apply` — a write as a value.
-/

namespace PartitionRouting

open Std

/-- The assignments of all datasets. -/
abbrev Registry := Views

namespace Registry

instance : EmptyCollection Registry := ⟨{}⟩

/-! ### Reads -/

/-- The partitions of `dataset` that `node` serves; none for a node that is not part
of the dataset. -/
def partitions (r : Registry) (dataset : String) (node : NodeId) :
    Attempt (ExtTreeSet PartitionId) :=
  Attempt.ofOption (r.byDataset[dataset]?.map (entryOrEmpty · node))
    (.unknownDatasetForNode dataset node) (.datasetNotFound dataset)

/-- The nodes of `dataset`, with the partitions of each. -/
def nodeAssignment (r : Registry) (dataset : String) : Attempt NodeAssignment :=
  Attempt.ofOption r.byDataset[dataset]? (.unknownDataset dataset) (.datasetNotFound dataset)

/-- The datasets of `node`, with its partitions of each. -/
def datasetAssignment (r : Registry) (node : NodeId) : Attempt DatasetAssignment :=
  Attempt.ofOption r.byNode[node]? (.unknownNode node) (.nodeNotFound node)

/-- The nodes that serve `partition` of `dataset`. -/
def nodesForPartition (r : Registry) (dataset : String) (partition : PartitionId) :
    Attempt (ExtTreeSet NodeId) :=
  match r.byPartition[dataset]? with
  | none => Attempt.fail (.unknownDataset dataset) (.datasetNotFound dataset)
  | some partitions =>
    Attempt.ofOption partitions[partition]? (.unassignedPartition dataset partition)
      (.partitionNotFound dataset partition)

/-- The names of all datasets, in ascending order. -/
def datasets (r : Registry) : Attempt (List String) := Attempt.ok r.byDataset.keys

/-! ### Writes -/

/-- The complaint about a write that names no dataset. -/
def emptyName : RoutingError := .invalidArgument "Dataset name cannot be empty"

/-- Replaces the whole assignment of `dataset`. -/
def setAssignment (r : Registry) (dataset : String) (a : NodeAssignment) :
    Attempt Registry :=
  if dataset = "" then Attempt.fail .emptyDatasetName emptyName
  else
    ⟨.ok (((r.removeDataset dataset).registerDataset dataset).load dataset a.entries),
      [.assignmentReplaced dataset]⟩

/-- Forgets `dataset`.  Nothing happens if it is unknown. -/
def deleteAssignment (r : Registry) (dataset : String) : Attempt Registry :=
  if dataset = "" then Attempt.fail .emptyDatasetName emptyName
  else if r.byDataset.contains dataset then Attempt.ok (r.removeDataset dataset)
  else ⟨.ok r, [.datasetAbsent dataset]⟩

/-- Records that `node` serves `partition` of `dataset`.  Nothing happens if it does
already. -/
def addPartition (r : Registry) (dataset : String) (node : NodeId)
    (partition : PartitionId) : Attempt Registry :=
  if dataset = "" then Attempt.fail .emptyDatasetName emptyName
  else if r.contains dataset node partition then Attempt.ok r
  else Attempt.ok (r.insert dataset node partition)

/-- Replaces the assignments of the listed datasets in order, up to the first failure. -/
def setAll (r : Registry) : List (String × NodeAssignment) → Attempt Registry
  | [] => Attempt.ok r
  | (dataset, a) :: rest => (r.setAssignment dataset a).andThen (setAll · rest)

/-! ### Writes as values -/

/-- A write to the registry. -/
inductive Write
  /-- Replaces the assignment of a dataset. -/
  | set (dataset : String) (assignment : NodeAssignment)
  /-- Forgets a dataset. -/
  | delete (dataset : String)
  /-- Adds one partition of a node. -/
  | add (dataset : String) (node : NodeId) (partition : PartitionId)

/-- The dataset that a write names. -/
def Write.dataset : Write → String
  | set d _ => d
  | delete d => d
  | add d _ _ => d

/-- What a write gives. -/
def attempt (r : Registry) : Write → Attempt Registry
  | .set d a => r.setAssignment d a
  | .delete d => r.deleteAssignment d
  | .add d n p => r.addPartition d n p

/-- The registry after a write, unchanged by a write that fails. -/
def apply (r : Registry) (w : Write) : Registry :=
  match (attempt r w).value with
  | .ok r' => r'
  | .error _ => r

/-- The registry after a sequence of writes. -/
def applyAll (r : Registry) (ws : List Write) : Registry := ws.foldl apply r

end Registry
end PartitionRouting
