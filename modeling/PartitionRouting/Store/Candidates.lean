import PartitionRouting.AddressBook
import PartitionRouting.Assignment.Registry
import PartitionRouting.DatasetName

/-!
# Candidates of a request

A request reads one partition of one version of a store.  Its candidates are the
endpoints of the nodes that serve the partition, in the order of the nodes; nodes
without a known endpoint are left out and reported.

## Main definitions

* `reachable` — the endpoints of nodes that serve a partition.
* `candidates` — the candidates of a request.
-/

namespace PartitionRouting

/-- The endpoints of the given nodes, which serve `partition` of `dataset`. -/
def reachable (book : AddressBook) (dataset : String) (partition : PartitionId)
    (nodes : List NodeId) : Logged (List Endpoint) where
  value := nodes.filterMap book.endpoint?
  events := (nodes.filter fun n => (book.endpoint? n).isNone).map
    fun n => .missingEndpoint n partition dataset

/-- The candidates of a request for `partition` of a version of `store`. -/
def candidates (store : String) (registry : Registry) (book : AddressBook)
    (version : UInt32) (partition : PartitionId) : Attempt (List Endpoint) :=
  (datasetForVersion store version).andThen fun dataset =>
    (registry.nodesForPartition dataset partition).andThen fun nodes =>
      Attempt.succeed (reachable book dataset partition nodes.toList)

end PartitionRouting
