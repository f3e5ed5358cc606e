import Mathlib.Data.Set.Card
import PartitionRouting.Proofs.Assignment.Refinement
import PartitionRouting.Store.Basic

/-!
# The replicas that a request is given

A request for replicas is answered in four stages: the version names a dataset, the
registry lists the nodes that serve the partition, the address book gives their endpoints,
and the selector takes some of those that are available.  Looking for the nodes may fail,
and it is the only stage that can.  Whatever the strategy and its cursor, the endpoints
that are found are counted once each, however many nodes share them, and as many of them
are given as the request asks for or as there are.

## Main definitions

* `Ledger.serving` — the nodes that a request is about, or what is missing.
* `Store.usable` — the endpoints that a request may be sent to.
* `Store.Grants` — what a list of replicas has to be.

## Main results

* `Store.value_candidates`, `value_replicas`, `value_choose` — each stage as one equation.
* `Store.replicas_granted` — **a request is refused exactly when no node serves its
  partition, and otherwise given the right number of usable endpoints.**
-/

namespace PartitionRouting

open Std

/-- The nodes that serve a partition of a version of `store`, or the first thing on the way
to them that is missing. -/
def Ledger.serving (A : Ledger) (store : String) (version : UInt32) (partition : PartitionId) :
    Except RoutingError (ExtTreeSet NodeId) :=
  if version = 0 then .error (.versionNotFound version)
  else
    match A[datasetName store version]? with
    | none => .error (.datasetNotFound (datasetName store version))
    | some a =>
      if a.serving partition = ∅ then
        .error (.partitionNotFound (datasetName store version) partition)
      else .ok (a.serving partition)

/-- The candidates of a request are the endpoints of the nodes that serve its partition. -/
theorem value_candidates {r : Registry} {A : Ledger} (hr : r.Represents A) (store : String)
    (book : AddressBook) (version : UInt32) (partition : PartitionId) :
    (candidates store r book version partition).value =
      (A.serving store version partition).map fun nodes =>
        nodes.toList.filterMap book.endpoint? := by
  rw [candidates, Attempt.value_andThen, datasetForVersion, Ledger.serving]
  by_cases hv : version = 0
  · rw [if_pos hv, if_pos hv]
    rfl
  · rw [if_neg hv, if_neg hv]
    simp only [Attempt.ok, Attempt.value_andThen, Registry.value_nodesForPartition hr]
    -- the version is looked up first, then its dataset, then the partition
    cases A[datasetName store version]? with
    | none => rfl
    | some a =>
      by_cases hnone : a.serving partition = ∅
      · simp only [if_pos hnone]
        rfl
      · simp only [if_neg hnone]
        rfl

namespace Store

/-! ### The stages of an answer -/

theorem value_choose (s : Store) (requestId : UInt64) (version : UInt32)
    (partition : PartitionId) (count : Nat) (candidates : List Endpoint) :
    (s.choose requestId version partition count candidates).value =
      let replicas := s.selector.select s.simulation.signal requestId candidates count
      let sink := (s.simulation.sink.recordAll (choiceRecordings replicas count)).value
      (replicas,
        { s with
          selector := s.selector.next s.simulation.signal candidates count
          simulation := { s.simulation with sink } }) := by
  unfold choose
  dsimp only
  split <;> rfl

/-- A request without candidates changes nothing. -/
theorem value_replicas (s : Store) (requestId : UInt64) (version : UInt32)
    (partition : PartitionId) (count : Nat) :
    (s.replicas requestId version partition count).value =
      match (s.candidates version partition).value with
      | .ok candidates =>
        let chosen := (s.choose requestId version partition count candidates).value
        (.ok chosen.1, chosen.2)
      | .error cause => (.error cause, s) := by
  simp only [replicas, Logged.value_bind]
  cases (s.candidates version partition).value <;> rfl

/-! ### Usable endpoints -/

/-- The endpoints of the given nodes that requests may be sent to at present. -/
def usable (s : Store) (nodes : ExtTreeSet NodeId) : Set Endpoint :=
  {e | (∃ n ∈ nodes, s.book.endpoint? n = some e) ∧ s.simulation.isAvailable e}

theorem mem_usable_iff {s : Store} {nodes : ExtTreeSet NodeId} {e : Endpoint} :
    e ∈ s.usable nodes ↔
      e ∈ availableCandidates s.simulation.signal (nodes.toList.filterMap s.book.endpoint?) := by
  rw [mem_availableCandidates, List.mem_filterMap]
  simp only [ExtTreeSet.mem_toList]
  rfl

/-- Each usable endpoint is one candidate, however many nodes have it. -/
theorem ncard_usable (s : Store) (nodes : ExtTreeSet NodeId) :
    (s.usable nodes).ncard =
      (availableCandidates s.simulation.signal
        (nodes.toList.filterMap s.book.endpoint?)).length := by
  have hset : s.usable nodes = (availableCandidates s.simulation.signal
      (nodes.toList.filterMap s.book.endpoint?)).toFinset := by
    ext e
    rw [mem_usable_iff, List.coe_toFinset]
    rfl
  rw [hset, Set.ncard_coe_finset, List.toFinset_card_of_nodup (nodup_availableCandidates ..)]

/-! ### Replicas -/

/-- **The replicas that `count` of the given nodes are to give**: usable endpoints, none
twice, and as many as there are or are asked for. -/
structure Grants (s : Store) (nodes : ExtTreeSet NodeId) (count : Nat)
    (replicas : List Endpoint) : Prop where
  /-- No endpoint is given twice. -/
  nodup : replicas.Nodup
  /-- Every replica is the endpoint of one of the nodes, and available. -/
  usable : ∀ e ∈ replicas, (∃ n ∈ nodes, s.book.endpoint? n = some e) ∧ s.simulation.isAvailable e
  /-- As many are given as are asked for or usable. -/
  length : replicas.length = min count (s.usable nodes).ncard
  /-- Something that asked for replicas is given none only if there is none. -/
  empty : replicas = [] → 0 < count → s.usable nodes = ∅

theorem grants_select (s : Store) (nodes : ExtTreeSet NodeId) (requestId : UInt64)
    (count : Nat) :
    s.Grants nodes count (s.selector.select s.simulation.signal requestId
      (nodes.toList.filterMap s.book.endpoint?) count) := by
  have hlength := s.selector.length_select s.simulation.signal requestId
    (nodes.toList.filterMap s.book.endpoint?) count
  refine ⟨Selector.nodup_select .., fun e he => ?_, ?_, fun hnil hcount => ?_⟩
  · exact mem_usable_iff.mpr (Selector.mem_availableCandidates_of_mem_select he)
  · rw [ncard_usable]
    exact hlength
  · -- one would have been given if there were any
    rw [hnil, List.length_nil] at hlength
    have hnone : availableCandidates s.simulation.signal
        (nodes.toList.filterMap s.book.endpoint?) = [] :=
      List.eq_nil_of_length_eq_zero (by omega)
    refine Set.eq_empty_of_forall_notMem fun e he => ?_
    rw [mem_usable_iff, hnone] at he
    contradiction

/-- **A request is refused exactly when no node serves its partition**, because the version
is zero, the dataset unknown or the partition unassigned, in this order, and it makes no
difference how many replicas it asks for.  **Otherwise it is given usable endpoints, none
twice, and as many as there are or it asks for.** -/
theorem replicas_granted {s : Store} {ws : List Registry.Write}
    (hr : s.registry = Registry.applyAll ∅ ws) (requestId : UInt64) (version : UInt32)
    (partition : PartitionId) (count : Nat) :
    match (Ledger.ofWrites ws).serving s.datasets version partition with
    | .ok nodes =>
      ∃ replicas, (s.replicas requestId version partition count).value.1 = .ok replicas ∧
        s.Grants nodes count replicas
    | .error cause => (s.replicas requestId version partition count).value.1 = .error cause := by
  have hrepresents : s.registry.Represents (Ledger.ofWrites ws) := by
    rw [hr]
    exact Registry.represents_applyAll Registry.represents_empty ws
  have hcandidates := value_candidates hrepresents s.datasets s.book version partition
  rw [value_replicas, candidates, hcandidates]
  cases (Ledger.ofWrites ws).serving s.datasets version partition with
  | error cause => rfl
  | ok nodes =>
    refine ⟨_, rfl, ?_⟩
    rw [value_choose]
    exact s.grants_select nodes requestId count

/-- Of four nodes that serve a partition two share an endpoint, one has an endpoint that is
not available, and one has none. -/
theorem replicas_granted_of_shared_endpoint :
    let ws : List Registry.Write :=
      [.set "store_v1" (.ofEntries [(0, [1]), (1, [1, 2]), (2, [1]), (3, [1]), (4, [])])]
    let faulty : Behaviour := { faulty := true }
    let failing : Simulation :=
      .fresh { unhealthyAfterFailures := 1 } { behaviours := .ofList [("b", faulty)] } .discarding
    let serving : List NodeId := [0, 1, 2, 3]
    let s : Store :=
      { name := "store", datasets := "store", registry := Registry.applyAll ∅ ws
        book := .ofPairs [(0, "a"), (1, "b"), (2, "a")], selector := ⟨.roundRobin, 5⟩
        simulation := (failing.send "b").value }
    (s.replicas 7 1 1 3).value.1 = .ok ["a"] ∧ s.Grants (.ofList serving) 3 ["a"] := by
  intro ws faulty failing serving s
  have hserving : (Ledger.ofWrites ws).serving s.datasets 1 1 = .ok (.ofList serving) := by
    decide +kernel
  have hvalue : (s.replicas 7 1 1 3).value.1 = .ok ["a"] := by decide +kernel
  have hgranted := replicas_granted (rfl : s.registry = Registry.applyAll ∅ ws) 7 1 1 3
  rw [hserving] at hgranted
  obtain ⟨replicas, hreplicas, hgrants⟩ := hgranted
  rw [hvalue] at hreplicas
  refine ⟨hvalue, ?_⟩
  rwa [Except.ok.inj hreplicas]

end Store
end PartitionRouting
