import PartitionRouting.CommandLine.Invocation
import PartitionRouting.FileTree
import PartitionRouting.Settings.Load
import PartitionRouting.Snapshot
import PartitionRouting.Store.Basic

/-!
# Answers to invocations

An invocation is answered by lines of text, or it fails.  The settings are loaded
before the snapshot, and the whole snapshot is read before any of it is used.

## Main definitions

* `Invocation.Failure` — why an invocation fails, with its message and exit code.
* `Invocation.answer` — the answer to an invocation, given its two files.
* `answerArguments` — the answer to a command line given in a directory.
-/

namespace PartitionRouting
namespace Invocation

/-- Why an invocation fails. -/
inductive Failure
  /-- The command line is refused. -/
  | usage
  /-- The file of the settings gives none. -/
  | settings (path : String) (cause : Settings.LoadError)
  /-- The file of the snapshot cannot be read. -/
  | snapshotUnreadable (cause : ReadError)
  /-- The text of the snapshot does not stand for one. -/
  | snapshotMalformed
  /-- There is no answer. -/
  | routing (cause : RoutingError)
  /-- No replica can be given. -/
  | noReplica (version : UInt32) (partition : PartitionId)
  deriving DecidableEq, Repr

namespace Failure

/-- The exit code of a failure. -/
def exitCode : Failure → Nat
  | usage => 2
  | _ => 1

/-- Whether a document was refused. -/
def isMalformed : Failure → Bool
  | settings _ .malformed => true
  | snapshotMalformed => true
  | _ => false

/-- The headline of a failure: what was being done, if that is told apart from the
cause. -/
def headline? : Failure → Option String
  | settings path _ => some ("Error: loading config " ++ Text.quoted path)
  | _ => none

/-- What made the invocation fail. -/
def cause : Failure → String
  | usage => "the command line is refused"
  | settings _ .malformed => "the settings are malformed"
  | settings _ (.unusable cause) => cause.message
  | snapshotUnreadable cause => cause.message
  | snapshotMalformed => "the assignments are malformed"
  | routing cause => cause.message
  | noReplica version partition =>
    "no healthy replica for version " ++ toString version.toNat ++ " partition " ++
      toString partition.toNat

/-- The message of a failure. -/
def message (f : Failure) : String :=
  match f.headline? with
  | none => "Error: " ++ f.cause ++ "\n"
  | some headline => headline ++ "\n\nCaused by:\n    " ++ f.cause ++ "\n"

end Failure

/-- Lines of text, each ended. -/
def lines : List String → String
  | [] => ""
  | l :: rest => l ++ "\n" ++ lines rest

/-- The line of one dataset of a node. -/
def datasetLine (dataset : String) (partitions : List PartitionId) : String :=
  dataset ++ ": [" ++ Text.commaSeparated (partitions.map fun p => toString p.toNat) ++ "]"

/-- The answer to a question about a node. -/
def dump (registry : Registry) (node : NodeId) : Except Failure String :=
  match (registry.datasetAssignment node).value with
  | .error cause => .error (.routing cause)
  | .ok datasets => .ok (lines (datasets.toList.map fun e => datasetLine e.1 e.2.toList))

/-- The answer to a question about a request. -/
def route (settings : Settings) (registry : Registry) (book : AddressBook)
    (version : UInt32) (partition : PartitionId) (count requestId : UInt64) :
    Except Failure String :=
  match (Store.ofSettings settings registry book {} .discarding).value with
  | .error cause => .error (.routing cause)
  | .ok store =>
    match (store.replicas requestId version partition count.toNat).value.1 with
    | .error cause => .error (.routing cause)
    | .ok [] => .error (.noReplica version partition)
    | .ok replicas => .ok (lines replicas)

/-- The answer of checked settings and a snapshot. -/
def answerFrom (settings : Settings) (snapshot : Snapshot) (command : Command) :
    Except Failure String :=
  match snapshot.registry.value with
  | .error cause => .error (.routing cause)
  | .ok registry =>
    match command with
    | .dump node => dump registry node
    | .route version partition count requestId =>
      route settings registry snapshot.endpoints version partition count requestId

/-- The answer to an invocation, given the files of its settings and its snapshot. -/
def answer (i : Invocation) (settingsFile snapshotFile : FileContent) :
    Except Failure String :=
  match (Settings.load settingsFile).value with
  | .error cause => .error (.settings i.settingsPath cause)
  | .ok settings =>
    match snapshotFile.text with
    | .error cause => .error (.snapshotUnreadable cause)
    | .ok text =>
      match Snapshot.ofDocument? text with
      | none => .error .snapshotMalformed
      | some snapshot => answerFrom settings snapshot i.command

end Invocation

/-- The answer to a command line that is given at a place of a file tree. -/
def answerArguments (here : Place) (arguments : List String) :
    Except Invocation.Failure String :=
  match Invocation.parse? arguments with
  | none => .error .usage
  | some i => i.answer (here.read i.settingsPath) (here.read i.snapshotPath)

end PartitionRouting
