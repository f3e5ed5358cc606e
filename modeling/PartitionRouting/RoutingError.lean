import PartitionRouting.Text.Record

/-!
# Errors of routing

An error says what could not be found, which input cannot be applied, or which
request failed.  Its written form is a record: the kind of the error and its
fields, texts in quotes and numbers in decimal.

## Main definitions

* `RoutingError` — the causes.
* `RoutingError.isNotFound` — the causes that mean "nothing is assigned here".
* `RoutingError.message` — the written form.
-/

namespace PartitionRouting

/-- The identifier of a serving node. -/
abbrev NodeId := UInt32

/-- The identifier of a partition, unique within its dataset. -/
abbrev PartitionId := UInt32

/-- Where an instance is reached; an instance is known by its endpoint. -/
abbrev Endpoint := String

/-- Why an operation of the routing core has no answer. -/
inductive RoutingError
  /-- Nothing is assigned for this dataset. -/
  | datasetNotFound (dataset : String)
  /-- The node serves no dataset. -/
  | nodeNotFound (node : NodeId)
  /-- The dataset is known but no node serves this partition. -/
  | partitionNotFound (dataset : String) (partition : PartitionId)
  /-- No dataset belongs to this version of the store. -/
  | versionNotFound (version : UInt32)
  /-- An input that cannot be applied. -/
  | invalidArgument (reason : String)
  /-- The transport failed or the request took too long. -/
  | requestFailed (endpoint : Endpoint) (reason : String)
  /-- Client settings that cannot be used. -/
  | invalidConfig (reason : String)
  /-- Input or output failed. -/
  | io (reason : String)
  /-- A state that should not arise. -/
  | logic (reason : String)
  deriving DecidableEq, Repr, Inhabited

namespace RoutingError

/-- The value of a field of an error. -/
inductive FieldValue
  /-- A free text. -/
  | text (s : String)
  /-- A 32-bit number. -/
  | number (n : UInt32)
  deriving DecidableEq, Repr

/-- The written form of a field's value. -/
def FieldValue.written : FieldValue → String
  | .text s => Text.quoted s
  | .number n => toString n.toNat

/-- The name of the kind of an error. -/
def kind : RoutingError → String
  | datasetNotFound _ => "DatasetNotFound"
  | nodeNotFound _ => "NodeNotFound"
  | partitionNotFound _ _ => "PartitionNotFound"
  | versionNotFound _ => "VersionNotFound"
  | invalidArgument _ => "InvalidArgument"
  | requestFailed _ _ => "RequestFailed"
  | invalidConfig _ => "InvalidConfig"
  | io _ => "Io"
  | logic _ => "Logic"

/-- The labelled fields of an error, in order. -/
def fields : RoutingError → List (String × FieldValue)
  | datasetNotFound d => [("dataset", .text d)]
  | nodeNotFound n => [("node", .number n)]
  | partitionNotFound d p => [("dataset", .text d), ("partition", .number p)]
  | versionNotFound v => [("version", .number v)]
  | invalidArgument r => [("reason", .text r)]
  | requestFailed e r => [("endpoint", .text e), ("reason", .text r)]
  | invalidConfig r => [("reason", .text r)]
  | io r => [("reason", .text r)]
  | logic r => [("reason", .text r)]

/-- Whether the error means that nothing is assigned where one looked. -/
def isNotFound : RoutingError → Bool
  | datasetNotFound _ => true
  | nodeNotFound _ => true
  | partitionNotFound _ _ => true
  | versionNotFound _ => true
  | _ => false

/-- The written form of an error. -/
def message (e : RoutingError) : String :=
  Text.recordText e.kind (e.fields.map fun f => (f.1, f.2.written))

end RoutingError
end PartitionRouting
