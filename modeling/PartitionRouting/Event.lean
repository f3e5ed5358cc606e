import PartitionRouting.Health.Outcome
import PartitionRouting.RoutingError
import PartitionRouting.Settings.Basic

/-!
# Events

Whatever the routing core does that an operator may want to know is an event.  An
event has a level, a sentence, and, for the events about a single answer, the
outcome that the answer was counted under.

## Main definitions

* `Event` — what can happen.
* `Event.level`, `Event.text`, `Event.outcome?` — how it is reported.
-/

namespace PartitionRouting

/-- How much an event matters. -/
inductive Level
  | error
  | warn
  | info
  | debug
  deriving DecidableEq, Repr

/-- The name of a level in a log. -/
def Level.label : Level → String
  | error => "ERROR"
  | warn => "WARN"
  | info => "INFO"
  | debug => "DEBUG"

/-- Something that the routing core reports. -/
inductive Event
  /-- A dataset without assignment was asked for the partitions of a node. -/
  | unknownDatasetForNode (dataset : String) (node : NodeId)
  /-- A dataset without assignment was asked for. -/
  | unknownDataset (dataset : String)
  /-- A node that serves no dataset was asked for. -/
  | unknownNode (node : NodeId)
  /-- A partition that no node serves was asked for. -/
  | unassignedPartition (dataset : String) (partition : PartitionId)
  /-- A write named no dataset. -/
  | emptyDatasetName
  /-- The assignment of a dataset was replaced as a whole. -/
  | assignmentReplaced (dataset : String)
  /-- A dataset without assignment was deleted. -/
  | datasetAbsent (dataset : String)
  /-- Version zero of a store was asked for. -/
  | noVersionZero (store : String)
  /-- A node that serves a partition cannot be reached. -/
  | missingEndpoint (node : NodeId) (partition : PartitionId) (dataset : String)
  /-- The candidates of a request could not be found. -/
  | noCandidates (store : String) (version : UInt32) (partition : PartitionId)
      (cause : RoutingError)
  /-- None of the candidates of a request is available. -/
  | noReplica (store : String) (version : UInt32) (partition : PartitionId)
      (candidates : List Endpoint)
  /-- A request was given its replicas. -/
  | routed (requestId : UInt64) (replicas : List Endpoint) (version : UInt32)
      (partition : PartitionId)
  /-- An instance was contacted for the first time. -/
  | tracking (endpoint : Endpoint)
  /-- A request was admitted as the probe of an unhealthy instance. -/
  | probing (endpoint : Endpoint)
  /-- A request ended with this outcome. -/
  | answered (endpoint : Endpoint) (outcome : Outcome)
  /-- The transport failed to deliver a request. -/
  | transportFailed (endpoint : Endpoint) (cause : RoutingError)
  /-- A request took longer than the timeout. -/
  | abandoned (endpoint : Endpoint) (timeout : Duration)
  /-- An instance failed too many times in a row. -/
  | markedUnhealthy (endpoint : Endpoint) (failures : Nat)
  /-- The judgement of an instance changed. -/
  | moved (endpoint : Endpoint) (before after : HealthState)
  /-- Settings break a rule. -/
  | invalidSettings (violation : Settings.Violation)
  /-- Counters were used after a sum that could not be kept. -/
  | countersDamaged
  deriving DecidableEq, Repr

namespace Event

/-- The level of an event. -/
def level : Event → Level
  | unknownDatasetForNode _ _ => .error
  | unknownDataset _ => .error
  | unknownNode _ => .error
  | unassignedPartition _ _ => .error
  | emptyDatasetName => .error
  | assignmentReplaced _ => .debug
  | datasetAbsent _ => .debug
  | noVersionZero _ => .error
  | missingEndpoint _ _ _ => .warn
  | noCandidates _ _ _ _ => .warn
  | noReplica _ _ _ _ => .warn
  | routed _ _ _ _ => .debug
  | tracking _ => .debug
  | probing _ => .info
  | answered _ _ => .debug
  | transportFailed _ _ => .warn
  | abandoned _ _ => .warn
  | markedUnhealthy _ _ => .warn
  | moved _ _ _ => .info
  | invalidSettings _ => .error
  | countersDamaged => .warn

/-- The sentence of an event. -/
def text : Event → String
  | unknownDatasetForNode d n =>
    "dataset " ++ d ++ " does not exist (looked up for node " ++ toString n.toNat ++ ")"
  | unknownDataset d => "dataset " ++ d ++ " does not exist"
  | unknownNode n => "node " ++ toString n.toNat ++ " does not exist"
  | unassignedPartition d p =>
    "partition " ++ toString p.toNat ++ " for dataset " ++ d ++ " does not exist"
  | emptyDatasetName => "dataset name cannot be empty"
  | assignmentReplaced d => "assignment for dataset " ++ d ++ " replaced"
  | datasetAbsent d => "dataset " ++ d ++ " already absent"
  | noVersionZero s => "store " ++ s ++ " has no version 0, versions start at 1"
  | missingEndpoint n p d =>
    "node " ++ toString n.toNat ++ " serves partition " ++ toString p.toNat ++ " of " ++ d ++
      " but has no known endpoint"
  | noCandidates s v p e =>
    "no candidates for store " ++ s ++ " version " ++ toString v.toNat ++ " partition " ++
      toString p.toNat ++ ": " ++ e.message
  | noReplica s v p cs =>
    "no available replica for store " ++ s ++ " version " ++ toString v.toNat ++
      " partition " ++ toString p.toNat ++ " out of " ++ Text.quotedList cs
  | routed id rs v p =>
    "request " ++ toString id.toNat ++ " routed to " ++ Text.quotedList rs ++ " (version " ++
      toString v.toNat ++ " partition " ++ toString p.toNat ++ ")"
  | tracking i => "tracking new instance " ++ i
  | probing i => "probing unhealthy instance " ++ i
  | answered i _ => "instance " ++ i ++ " answered"
  | transportFailed i e => "request to instance " ++ i ++ " failed: " ++ e.message
  | abandoned i t =>
    "request to instance " ++ i ++ " still pending after " ++ t.text ++ ", abandoning it"
  | markedUnhealthy i n =>
    "instance " ++ i ++ " marked unhealthy after " ++ toString n ++ " consecutive failures"
  | moved i b a => "instance " ++ i ++ " moved from " ++ b.label ++ " to " ++ a.label
  | invalidSettings v => "invalid client config: " ++ v.reason
  | countersDamaged => "in memory stats lock poisoned, recovering"

/-- The outcome that an event carries beside its sentence. -/
def outcome? : Event → Option Outcome
  | answered _ o => some o
  | transportFailed _ _ => some .otherError
  | _ => none

end Event
end PartitionRouting
