import PartitionRouting.Assignment.Basic

/-!
# The address book

The registry knows nodes, a request needs an endpoint.  The address book gives the
endpoint of each node that can be reached at present.

## Main definitions

* `AddressBook` — the endpoints of nodes.
* `AddressBook.ofPairs`, `put`, `remove`, `endpoint?` — its operations.
-/

namespace PartitionRouting

open Std

/-- The endpoints of the nodes that can be reached. -/
abbrev AddressBook := ExtTreeMap NodeId Endpoint

namespace AddressBook

/-- The endpoint of a node. -/
def endpoint? (book : AddressBook) (node : NodeId) : Option Endpoint := book[node]?

/-- Gives a node a new endpoint. -/
def put (book : AddressBook) (node : NodeId) (endpoint : Endpoint) : AddressBook :=
  book.insert node endpoint

/-- Forgets the endpoint of a node. -/
def remove (book : AddressBook) (node : NodeId) : AddressBook := book.erase node

/-- The address book of a list of pairs; of pairs for one node the last counts. -/
def ofPairs (pairs : List (NodeId × Endpoint)) : AddressBook :=
  pairs.foldl (fun book e => book.put e.1 e.2) ∅

end AddressBook
end PartitionRouting
