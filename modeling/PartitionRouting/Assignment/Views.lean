import PartitionRouting.Assignment.Basic

/-!
# Three views of the assignments

The registry answers questions from three directions, so it keeps the triples
(dataset, node, partition) in three maps: by dataset and node, by node and dataset,
and by dataset and partition.  Each operation below changes all three.

## Main definitions

* `Views` — the three maps.
* `Views.removeDataset`, `registerDataset`, `registerNode`, `insert` — the changes.
* `Views.load` — registers a listing of nodes and partitions, one after another.
-/

namespace PartitionRouting

open Std

/-- The three views of the assignments of all datasets. -/
structure Views where
  /-- For each dataset, its nodes and the partitions of each. -/
  byDataset : ExtTreeMap String NodeAssignment := ∅
  /-- For each node, its datasets and the partitions of each. -/
  byNode : ExtTreeMap NodeId DatasetAssignment := ∅
  /-- For each dataset, its partitions and the nodes of each. -/
  byPartition : ExtTreeMap String PartitionAssignment := ∅
  deriving DecidableEq

namespace Views

/-- Takes `dataset` away from `node`; a node left without datasets goes too. -/
def dropFromNode (dataset : String) (byNode : ExtTreeMap NodeId DatasetAssignment)
    (node : NodeId) : ExtTreeMap NodeId DatasetAssignment :=
  match byNode[node]? with
  | none => byNode
  | some datasets =>
    let rest := datasets.erase dataset
    if rest.isEmpty then byNode.erase node else byNode.insert node rest

theorem getElem?_dropFromNode (dataset : String)
    (byNode : ExtTreeMap NodeId DatasetAssignment) (node n : NodeId) :
    (dropFromNode dataset byNode node)[n]? =
      if n = node then
        (byNode[node]?.map fun d : DatasetAssignment => d.erase dataset).filter (!·.isEmpty)
      else byNode[n]? := by
  unfold dropFromNode
  cases h : byNode[node]? with
  | none =>
    by_cases hn : n = node
    · subst hn
      simp [h]
    · simp [hn]
  | some datasets =>
    by_cases he : (datasets.erase dataset).isEmpty
    · simp [he, getElem?_erase_eq_ite, Option.filter]
    · simp [he, getElem?_insert_eq_ite, Option.filter]

/-- Drops every trace of `dataset`. -/
def removeDataset (v : Views) (dataset : String) : Views where
  byDataset := v.byDataset.erase dataset
  byNode :=
    match v.byDataset[dataset]? with
    | none => v.byNode
    | some nodes => nodes.keys.foldl (dropFromNode dataset) v.byNode
  byPartition := v.byPartition.erase dataset

/-- Makes `dataset` known, without nodes if it was unknown. -/
def registerDataset (v : Views) (dataset : String) : Views where
  byDataset := amend v.byDataset dataset id
  byNode := v.byNode
  byPartition := amend v.byPartition dataset id

/-- Makes `node` part of `dataset`, without partitions if it was not. -/
def registerNode (v : Views) (dataset : String) (node : NodeId) : Views where
  byDataset := amend v.byDataset dataset (amend · node id)
  byNode := amend v.byNode node (amend · dataset id)
  byPartition := v.byPartition

/-- Records that `node` serves `partition` of `dataset`. -/
def insert (v : Views) (dataset : String) (node : NodeId) (partition : PartitionId) :
    Views where
  byDataset := amend v.byDataset dataset (amend · node (·.insert partition))
  byNode := amend v.byNode node (amend · dataset (·.insert partition))
  byPartition := amend v.byPartition dataset (amend · partition (·.insert node))

/-- Whether `node` serves `partition` of `dataset`. -/
def contains (v : Views) (dataset : String) (node : NodeId) (partition : PartitionId) :
    Bool :=
  match v.byDataset[dataset]? with
  | none => false
  | some nodes =>
    match nodes[node]? with
    | none => false
    | some partitions => partitions.contains partition

/-- Registers one node of `dataset` and records its partitions in the given order. -/
def loadNode (dataset : String) (v : Views) (entry : NodeId × List PartitionId) : Views :=
  entry.2.foldl (fun v partition => v.insert dataset entry.1 partition)
    (v.registerNode dataset entry.1)

/-- Registers the listed nodes of `dataset` with their partitions, in the given order. -/
def load (v : Views) (dataset : String) (entries : List (NodeId × List PartitionId)) :
    Views :=
  entries.foldl (loadNode dataset) v

end Views

/-- The nodes and partitions of an assignment in ascending order. -/
def NodeAssignment.entries (a : NodeAssignment) : List (NodeId × List PartitionId) :=
  a.toList.map fun e => (e.1, e.2.toList)

/-- The assignment given by a listing; of entries for one node the last counts. -/
def NodeAssignment.ofEntries (entries : List (NodeId × List PartitionId)) :
    NodeAssignment :=
  entries.foldl (fun a e => a.insert e.1 (ExtTreeSet.ofList e.2)) ∅

end PartitionRouting
