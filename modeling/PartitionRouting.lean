import PartitionRouting.AddressBook
import PartitionRouting.Assignment.Registry
import PartitionRouting.CommandLine.Answer
import PartitionRouting.Counters
import PartitionRouting.DatasetName
import PartitionRouting.Health.Monitor
import PartitionRouting.Json.Decode
import PartitionRouting.Main
import PartitionRouting.Proofs.Assignment.Interleaving
import PartitionRouting.Proofs.Assignment.Listing
import PartitionRouting.Proofs.Assignment.Rebuild
import PartitionRouting.Proofs.Assignment.Refinement
import PartitionRouting.Proofs.Assignment.Replacement
import PartitionRouting.Proofs.Assignment.Stages
import PartitionRouting.Proofs.CommandLine.Answers
import PartitionRouting.Proofs.Counters.Totals
import PartitionRouting.Proofs.Json.Compact
import PartitionRouting.Proofs.Json.Exactness
import PartitionRouting.Proofs.Json.Records
import PartitionRouting.Proofs.Selection.Digest
import PartitionRouting.Proofs.Selection.Fairness
import PartitionRouting.Proofs.Selection.Ranking
import PartitionRouting.Proofs.Selection.Restriction
import PartitionRouting.Proofs.Selection.Rotation
import PartitionRouting.Proofs.Settings.Loading
import PartitionRouting.Proofs.Settings.Rewriting
import PartitionRouting.Proofs.Simulation.Accounting
import PartitionRouting.Proofs.Simulation.Advance
import PartitionRouting.Proofs.Simulation.Availability
import PartitionRouting.Proofs.Simulation.Cancellation
import PartitionRouting.Proofs.Simulation.Isolation
import PartitionRouting.Proofs.Simulation.Judgement
import PartitionRouting.Proofs.Simulation.Log
import PartitionRouting.Proofs.Simulation.Probing
import PartitionRouting.Proofs.Simulation.Punctuality
import PartitionRouting.Proofs.Simulation.Quiescence
import PartitionRouting.Proofs.Simulation.RetryWindow
import PartitionRouting.Proofs.Simulation.Transitions
import PartitionRouting.Proofs.Store.Balance
import PartitionRouting.Proofs.Store.Candidates
import PartitionRouting.Proofs.Store.Replicas
import PartitionRouting.Proofs.Store.Reports
import PartitionRouting.Proofs.Store.Rotation
import PartitionRouting.Proofs.Store.Routing
import PartitionRouting.Proofs.Store.Step
import PartitionRouting.Proofs.Store.Tracking
import PartitionRouting.Proofs.Store.Versions
import PartitionRouting.Proofs.Text.Messages
import PartitionRouting.Selection.Selector
import PartitionRouting.Settings.Load
import PartitionRouting.Simulation.Basic
import PartitionRouting.Snapshot
import PartitionRouting.Store.Basic
