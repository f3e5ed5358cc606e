import PartitionRouting.Selection.Selector
import PartitionRouting.Settings.Check
import PartitionRouting.Simulation.Basic
import PartitionRouting.Store.Candidates

/-!
# Routing the requests of a store

The requests of one store are routed by its assignments and endpoints, by the
health monitor and by a selector.  A request first asks for its replicas and is
then sent to them.

## Main definitions

* `Store` — all of these together; `Store.ofSettings` sets one up, checking the settings
  first.
* `Store.candidates`, `Store.replicas` — the candidates of a request, and its replicas.
* `Store.startReplicas` — asks for replicas and sends a request to each.
* `Store.Action`, `Store.perform`, `Store.run` — what can be done, as values.
-/

namespace PartitionRouting

/-- What the requests of one store are routed by. -/
structure Store where
  /-- The name of the store. -/
  name : String
  /-- The store whose datasets hold the versions. -/
  datasets : String
  /-- The assignments. -/
  registry : Registry
  /-- The endpoints of the nodes. -/
  book : AddressBook
  /-- How replicas are selected. -/
  selector : Selector
  /-- The instances, their monitor and the counters. -/
  simulation : Simulation

namespace Store

/-- Sets a store up from its settings, which are checked first. -/
def ofSettings (settings : Settings) (registry : Registry) (book : AddressBook)
    (network : Network) (sink : Sink) : Attempt Store :=
  settings.check.andThen fun settings =>
    Attempt.ok
      { name := settings.storeName
        datasets := settings.storeName
        registry, book
        selector := ⟨settings.strategy, 0⟩
        simulation := .fresh settings.health network sink }

/-- The same store with its versions in the datasets of another. -/
def withDatasets (s : Store) (datasets : String) : Store := { s with datasets }

/-! ### Replicas -/

/-- The candidates of a request. -/
def candidates (s : Store) (version : UInt32) (partition : PartitionId) :
    Attempt (List Endpoint) :=
  PartitionRouting.candidates s.datasets s.registry s.book version partition

/-- Counts what a request was given: nothing, though it asked for something, or each of
its replicas. -/
def choiceRecordings (replicas : List Endpoint) (count : Nat) : List Recording :=
  (if replicas.isEmpty && count != 0 then [.noReplica] else []) ++
    replicas.map fun e => .measure e .routed

/-- The replicas for a request among its candidates. -/
def choose (s : Store) (requestId : UInt64) (version : UInt32) (partition : PartitionId)
    (count : Nat) (candidates : List Endpoint) : Logged (List Endpoint × Store) := do
  let replicas := s.selector.select s.simulation.signal requestId candidates count
  if replicas.isEmpty && count != 0 then
    Logged.emit (.noReplica s.name version partition candidates)
  let sink ← s.simulation.sink.recordAll (choiceRecordings replicas count)
  Logged.emit (.routed requestId replicas version partition)
  return (replicas,
    { s with
      selector := s.selector.next s.simulation.signal candidates count
      simulation := { s.simulation with sink } })

/-- At most `count` replicas for a request.  An empty list means that no replica is
available; that there is nothing to look for is an error. -/
def replicas (s : Store) (requestId : UInt64) (version : UInt32) (partition : PartitionId)
    (count : Nat) : Logged (Except RoutingError (List Endpoint) × Store) := do
  match ← s.candidates version partition with
  | .ok candidates =>
    let (replicas, s) ← s.choose requestId version partition count candidates
    return (.ok replicas, s)
  | .error cause =>
    Logged.emit (.noCandidates s.name version partition cause)
    return (.error cause, s)

/-- What selection alone gives for a request among given candidates. -/
def select (s : Store) (requestId : UInt64) (candidates : List Endpoint) (count : Nat) :
    List Endpoint × Store :=
  (s.selector.select s.simulation.signal requestId candidates count,
    { s with selector := s.selector.next s.simulation.signal candidates count })

/-! ### Requests -/

/-- Does something in the simulation of the store. -/
def simulate (s : Store) (f : Simulation → Logged Simulation) : Logged Store := do
  return { s with simulation := ← f s.simulation }

/-- The name of the request to the replica at position `index`. -/
def replicaLabel (stem : String) (index : Nat) : String := stem ++ toString index

/-- Sends a request to each of the replicas, named by the stem and their position. -/
def startEach (s : Store) (stem : String) (replicas : List Endpoint) : Logged Store :=
  replicas.zipIdx.foldlM (fun s (endpoint, index) =>
    s.simulate (·.start (some (replicaLabel stem index)) endpoint)) s

/-- Asks for replicas and sends a request to each. -/
def startReplicas (s : Store) (stem : String) (requestId : UInt64) (version : UInt32)
    (partition : PartitionId) (count : Nat) :
    Logged (Except RoutingError (List Endpoint) × Store) := do
  match ← s.replicas requestId version partition count with
  | (.ok replicas, s) => return (.ok replicas, ← s.startEach stem replicas)
  | (.error cause, s) => return (.error cause, s)

/-! ### Actions -/

/-- Writes to the registry; a write that fails changes nothing. -/
def write (s : Store) (w : Registry.Write) : Logged (Except RoutingError Unit × Store) := do
  match ← s.registry.attempt w with
  | .ok registry => return (.ok (), { s with registry })
  | .error cause => return (.error cause, s)

/-- Gives a node a new endpoint. -/
def putEndpoint (s : Store) (node : NodeId) (endpoint : Endpoint) : Store :=
  { s with book := s.book.put node endpoint }

/-- Forgets the endpoint of a node. -/
def removeEndpoint (s : Store) (node : NodeId) : Store :=
  { s with book := s.book.remove node }

/-- Something that can be done with a store. -/
inductive Action
  /-- Writes to the registry. -/
  | write (w : Registry.Write)
  /-- Gives a node a new endpoint. -/
  | putEndpoint (node : NodeId) (endpoint : Endpoint)
  /-- Forgets the endpoint of a node. -/
  | removeEndpoint (node : NodeId)
  /-- Does something in the simulation. -/
  | simulate (a : Simulation.Action)
  /-- Asks for replicas. -/
  | replicas (requestId : UInt64) (version : UInt32) (partition : PartitionId) (count : Nat)
  /-- Asks for replicas and sends a request to each. -/
  | startReplicas (stem : String) (requestId : UInt64) (version : UInt32)
      (partition : PartitionId) (count : Nat)

/-- The store after an action. -/
def perform (s : Store) : Action → Logged Store
  | .write w => (·.2) <$> s.write w
  | .putEndpoint node endpoint => pure (s.putEndpoint node endpoint)
  | .removeEndpoint node => pure (s.removeEndpoint node)
  | .simulate a => s.simulate (·.perform a)
  | .replicas id version partition count => (·.2) <$> s.replicas id version partition count
  | .startReplicas stem id version partition count =>
    (·.2) <$> s.startReplicas stem id version partition count

/-- The store after a sequence of actions. -/
def run (s : Store) (actions : List Action) : Logged Store := actions.foldlM perform s

/-! ### Written form -/

/-- The written form of a store: its name and its monitor. -/
def text (s : Store) : String :=
  Text.recordText "RegistryStoreMetadata"
    [("store_name", Text.quoted s.name), ("health_monitor", s.simulation.monitor.text)]

end Store
end PartitionRouting
