import PartitionRouting.CommandLine.Answer
import PartitionRouting.Proofs.Assignment.Listing
import PartitionRouting.Proofs.Selection.Ranking
import PartitionRouting.Proofs.Store.Replicas

/-!
# Answers depend on the content of a snapshot alone

A snapshot holds maps, and whoever answers a question about it goes through them in some
order: the datasets one after another, the nodes of each, the partitions of each node, and
the endpoints.  The answer is the same in every order.  It is determined by what the maps
hold, and so is the failure of a question that has none.

## Main definitions

* `Snapshot.Listing`, `Listing.Visits` — an order to go through the maps of a snapshot.
* `Snapshot.Listing.answer` — the answer to a command when the maps are gone through in this
  order.
* `Snapshot.HasRows` — the rows that a node has in a snapshot.
* `RoutingOrder` — the order in which a strategy offers endpoints.

## Main results

* `Snapshot.Listing.Visits.exists_registry` — in whatever order a snapshot is loaded, its
  datasets are what the registry represents.
* `Snapshot.HasRows.unique`, `RoutingOrder.unique` — rows and orders are determined.
* `Invocation.dump_eq`, `exists_route_eq` — what the two commands print.
* `Snapshot.answered_by_content` — **answers are determined by the content of a snapshot.**
-/

namespace PartitionRouting

open Std Invocation

/-! ### Printed lines -/

theorem lines_eq_join (ls : List String) : lines ls = String.join (ls.map (· ++ "\n")) := by
  induction ls with
  | nil => rfl
  | cons l rest ih => rw [lines, ih, List.map_cons, String.join_cons]

theorem commaSeparated_eq_intercalate (ls : List String) :
    Text.commaSeparated ls = ", ".intercalate ls := by
  fun_induction Text.commaSeparated ls with
  | case1 => rw [String.intercalate_nil]
  | case2 x => rw [String.intercalate_singleton]
  | case3 x y rest ih => rw [ih, String.intercalate_cons_cons]

/-! ### Going through a snapshot -/

namespace Snapshot

/-- An order to go through the maps of a snapshot. -/
structure Listing where
  /-- The datasets, with the nodes of each and the partitions of each node. -/
  datasets : List (String × List (NodeId × List PartitionId))
  /-- The endpoints of the nodes. -/
  endpoints : List (NodeId × Endpoint)

namespace Listing

/-- **A listing visits a snapshot**: every dataset once, with its nodes and their partitions,
and every endpoint once, in any order. -/
structure Visits (l : Listing) (s : Snapshot) : Prop where
  /-- It visits the datasets, and at each of them its assignment. -/
  datasets : ∃ order : List (String × NodeAssignment), order.Perm s.datasets.toList ∧
    List.Forall₂ (fun e x => e.1 = x.1 ∧ x.2.ListedBy e.2) l.datasets order
  /-- It visits the endpoints. -/
  endpoints : l.endpoints.Perm s.endpoints.toList

/-- The answer to a command when a snapshot is gone through in this order. -/
def answer (settings : Settings) (l : Listing) (command : Command) : Except Failure String :=
  match Registry.setAllListed ∅ l.datasets with
  | .error cause => .error (.routing cause)
  | .ok registry =>
    match command with
    | .dump node => dump registry node
    | .route version partition count requestId =>
      route settings registry (AddressBook.ofPairs l.endpoints) version partition count requestId

end Listing

/-- The ascending order. -/
def listing (s : Snapshot) : Listing where
  datasets := s.datasets.toList.map fun e => (e.1, e.2.entries)
  endpoints := s.endpoints.toList

theorem visits_listing (s : Snapshot) : s.listing.Visits s where
  datasets := by
    refine ⟨_, List.Perm.refl _, ?_⟩
    rw [listing, List.forall₂_map_left_iff]
    exact List.forall₂_same.mpr fun e _ => ⟨rfl, e.2.listedBy_entries⟩
  endpoints := List.Perm.refl _

variable {s : Snapshot} {l : Listing}

/-- In whatever order the endpoints are gone through, the address book is the same. -/
theorem Listing.Visits.ofPairs_eq (hl : l.Visits s) :
    AddressBook.ofPairs l.endpoints = s.endpoints := foldl_insert_of_perm hl.endpoints

/-- An answer goes through a snapshot in ascending order. -/
theorem answerFrom_eq (settings : Settings) (s : Snapshot) (command : Command) :
    answerFrom settings s command = s.listing.answer settings command := by
  have hload : s.registry.value = Registry.setAllListed ∅ s.listing.datasets :=
    Registry.value_setAll ∅ s.datasets.toList
  rw [answerFrom, Listing.answer, hload]
  cases Registry.setAllListed ∅ s.listing.datasets with
  | error cause => rfl
  | ok r =>
    cases command with
    | dump node => rfl
    | route version partition count requestId =>
      have hendpoints := s.visits_listing.ofPairs_eq
      exact congrArg (route settings r · version partition count requestId) hendpoints.symm

/-- A listing visits every dataset once. -/
theorem Listing.Visits.names (hl : l.Visits s) :
    (l.datasets.map (·.1)).Perm s.datasets.keys := by
  obtain ⟨order, hperm, hlisted⟩ := hl.datasets
  have hnames : l.datasets.map (·.1) = order.map (·.1) := by
    rw [← List.forall₂_eq_eq_eq, List.forall₂_map_left_iff, List.forall₂_map_right_iff]
    exact hlisted.imp fun _ _ h => h.1
  rw [hnames, ← ExtTreeMap.map_fst_toList_eq_keys]
  exact hperm.map _

/-- **In whatever order a snapshot is loaded**, its datasets are what the registry
represents, provided that all of them have names. -/
theorem Listing.Visits.exists_registry (hl : l.Visits s) (hnames : "" ∉ s.datasets) :
    ∃ r, Registry.setAllListed ∅ l.datasets = .ok r ∧ r.Represents s.datasets := by
  obtain ⟨order, hperm, hlisted⟩ := hl.datasets
  have hnamed : ∀ x ∈ order, x.1 ≠ "" := by
    intro x hx hname
    have hkey := List.mem_map_of_mem (f := (·.1)) (hperm.mem_iff.mp hx)
    rw [ExtTreeMap.map_fst_toList_eq_keys, hname, ExtTreeMap.mem_keys] at hkey
    exact hnames hkey
  obtain ⟨r, hload, hr⟩ :=
    Registry.exists_setAllListed Registry.represents_empty hlisted hnamed
  rw [foldl_insert_of_perm hperm] at hr
  exact ⟨r, hload, hr⟩

/-- A dataset without a name is refused in whatever order a snapshot is loaded. -/
theorem Listing.Visits.setAllListed_eq (hl : l.Visits s) (hname : "" ∈ s.datasets) :
    Registry.setAllListed ∅ l.datasets = .error Registry.emptyName := by
  refine Registry.setAllListed_of_empty ∅ (List.mem_map.mp ?_)
  rwa [hl.names.mem_iff, ExtTreeMap.mem_keys]

end Snapshot

/-! ### Questions about a node -/

/-- **The rows of a node**: each dataset that has the node, by name, and the partitions of the
node there, both in ascending order. -/
structure Snapshot.HasRows (s : Snapshot) (node : NodeId)
    (rows : List (String × List PartitionId)) : Prop where
  /-- The datasets are in ascending order. -/
  ascending : rows.Pairwise (·.1 < ·.1)
  /-- They are those that have the node, with its partitions. -/
  mem_iff : ∀ d ps, (d, ps) ∈ rows ↔ ∃ a served, s.datasets[d]? = some a ∧
    a[node]? = some served ∧ ps.Pairwise (· < ·) ∧ ∀ p, p ∈ ps ↔ p ∈ served

/-- The line of a row. -/
def rowLine (row : String × List PartitionId) : String :=
  row.1 ++ ": [" ++ ", ".intercalate (row.2.map fun p => toString p.toNat) ++ "]"

/-- Partitions in ascending order are listed in one way. -/
theorem eq_toList_iff {ps : List PartitionId} {served : ExtTreeSet PartitionId} :
    ps = served.toList ↔ ps.Pairwise (· < ·) ∧ ∀ p, p ∈ ps ↔ p ∈ served := by
  have hascending : served.toList.Pairwise (· < ·) :=
    (ExtTreeSet.ordered_toList (t := served)).imp fun h => compareOfLessAndEq_eq_lt.mp h
  constructor
  · rintro rfl
    exact ⟨hascending, fun p => ExtTreeSet.mem_toList⟩
  · rintro ⟨hps, hmem⟩
    refine eq_of_ascending (f := UInt32.toNat) (hps.imp UInt32.lt_iff_toNat_lt.mp)
      (hascending.imp UInt32.lt_iff_toNat_lt.mp) fun p => ?_
    rw [hmem, ExtTreeSet.mem_toList]

/-- A node has no other rows. -/
theorem Snapshot.HasRows.unique {s : Snapshot} {node : NodeId}
    {rows rows' : List (String × List PartitionId)} (h : s.HasRows node rows)
    (h' : s.HasRows node rows') : rows = rows' :=
  eq_of_ascending h.ascending h'.ascending fun row =>
    (h.mem_iff row.1 row.2).trans (h'.mem_iff row.1 row.2).symm

theorem Snapshot.hasRows_ofNode (s : Snapshot) (node : NodeId) :
    s.HasRows node ((Ledger.ofNode s.datasets node).toList.map fun e => (e.1, e.2.toList)) where
  ascending := by
    rw [List.pairwise_map]
    exact (ExtTreeMap.ordered_keys_toList (t := Ledger.ofNode s.datasets node)).imp fun h =>
      compareOfLessAndEq_eq_lt.mp h
  mem_iff d ps := by
    simp only [List.mem_map, Prod.exists, Prod.mk.injEq, ExtTreeMap.mem_toList_iff_getElem?_eq_some,
      Ledger.getElem?_ofNode, Option.bind_eq_some_iff, ← eq_toList_iff]
    constructor
    · rintro ⟨d', served, ⟨a, ha, hserved⟩, rfl, rfl⟩
      exact ⟨a, served, ha, hserved, rfl⟩
    · rintro ⟨a, served, ha, hserved, rfl⟩
      exact ⟨d, served, ⟨a, ha, hserved⟩, rfl, rfl⟩

namespace Invocation

/-- A question about a node is answered by its rows, and fails if it has none. -/
theorem dump_eq {r : Registry} {A : Ledger} (hr : r.Represents A) (node : NodeId) :
    dump r node =
      let rows := (A.ofNode node).toList.map fun e => (e.1, e.2.toList)
      if rows = [] then .error (.routing (.nodeNotFound node))
      else .ok (String.join (rows.map (rowLine · ++ "\n"))) := by
  have hempty : (A.ofNode node).toList.map (fun e => (e.1, e.2.toList)) = [] ↔
      A.ofNode node = ∅ := by
    rw [List.map_eq_nil_iff, ExtTreeMap.toList_eq_nil_iff]
  rw [dump, Registry.value_datasetAssignment hr]
  dsimp only
  by_cases h : A.ofNode node = ∅
  · rw [if_pos h, if_pos (hempty.mpr h)]
  · rw [if_neg h, if_neg (mt hempty.mp h)]
    simp only [lines_eq_join, List.map_map, datasetLine, commaSeparated_eq_intercalate]
    rfl

end Invocation

/-! ### Questions about a request -/

/-- Each endpoint is listed where it occurs first. -/
theorem pairwise_idxOf_firstOccurrences {α : Type} [DecidableEq α] (l : List α) :
    (firstOccurrences l).Pairwise (l.idxOf · < l.idxOf ·) := by
  induction l with
  | nil => exact List.Pairwise.nil
  | cons a rest ih =>
    rw [firstOccurrences, List.pairwise_cons]
    refine ⟨fun x hx => ?_, (ih.filter _).imp_of_mem fun hx hy hlt => ?_⟩
    · have hne : x ≠ a := by simpa using (List.mem_filter.mp hx).2
      rw [List.idxOf_cons_self, List.idxOf_cons_ne _ hne.symm]
      exact Nat.succ_pos _
    · have hne : ∀ x ∈ (firstOccurrences rest).filter (· ≠ a), x ≠ a := fun x hx => by
        simpa using (List.mem_filter.mp hx).2
      rw [List.idxOf_cons_ne _ (hne _ hx).symm, List.idxOf_cons_ne _ (hne _ hy).symm]
      exact Nat.succ_lt_succ hlt

/-- **The order in which endpoints are offered** for a request, each of them once: by digest
and then by name on the least loaded strategy, and by first occurrence in turn. -/
structure RoutingOrder (strategy : Strategy) (requestId : UInt64)
    (endpoints order : List Endpoint) : Prop where
  /-- The endpoints are offered. -/
  mem_iff : ∀ e, e ∈ order ↔ e ∈ endpoints
  /-- Nothing is known of loads, so that only digests and names are left. -/
  by_digest : strategy = .leastLoaded → order.Pairwise fun x y =>
    toLex (requestDigest requestId x, octets x) < toLex (requestDigest requestId y, octets y)
  /-- No request was served before, so that the first comes first. -/
  by_position : strategy = .roundRobin →
    order.Pairwise (endpoints.idxOf · < endpoints.idxOf ·)

/-- Endpoints are offered in no other order. -/
theorem RoutingOrder.unique {strategy : Strategy} {requestId : UInt64}
    {endpoints order order' : List Endpoint} (h : RoutingOrder strategy requestId endpoints order)
    (h' : RoutingOrder strategy requestId endpoints order') : order = order' := by
  have hmem : ∀ e, e ∈ order ↔ e ∈ order' := fun e => (h.mem_iff e).trans (h'.mem_iff e).symm
  cases strategy with
  | leastLoaded => exact eq_of_ascending (h.by_digest rfl) (h'.by_digest rfl) hmem
  | roundRobin => exact eq_of_ascending (h.by_position rfl) (h'.by_position rfl) hmem

/-- Before anything is sent, everything is available and nothing is in flight. -/
theorem Simulation.signal_fresh (settings : HealthSettings) (network : Network) (sink : Sink) :
    (fresh settings network sink).signal = ⟨fun _ => true, fun _ => 0⟩ := rfl

/-- A selector that has served no request offers the endpoints in the order of its
strategy. -/
theorem exists_routingOrder (strategy : Strategy) (requestId : UInt64) (cs : List Endpoint)
    (count : ℕ) :
    ∃ order, RoutingOrder strategy requestId cs order ∧
      (⟨strategy, 0⟩ : Selector).select ⟨fun _ => true, fun _ => 0⟩ requestId cs count =
        order.take count := by
  cases strategy with
  | leastLoaded =>
    have hranks := ranks_ranking ⟨fun _ => true, fun _ => 0⟩ requestId cs
    refine ⟨_, ⟨fun e => by simp [hranks.mem_iff], fun _ => ?_, by simp⟩, rfl⟩
    -- all loads are the same, so the digests decide
    exact hranks.ascending.imp fun hlt =>
      ((Prod.Lex.toLex_lt_toLex.mp hlt).resolve_left (Nat.lt_irrefl 0)).2
  | roundRobin =>
    have havailable : availableCandidates ⟨fun _ => true, fun _ => 0⟩ cs = firstOccurrences cs :=
      List.filter_eq_self.mpr fun _ _ => rfl
    refine ⟨firstOccurrences cs, ⟨fun e => mem_firstOccurrences, by simp, fun _ =>
      pairwise_idxOf_firstOccurrences cs⟩, ?_⟩
    rw [Selector.select, selectInTurn, havailable]
    simp [turned]

namespace Invocation

/-- A question about a request is answered by the first endpoints that are offered.  It fails
as the lookup does, or if there is none to print. -/
theorem exists_route_eq {settings : Settings} (hvalid : settings.violation? = none)
    {r : Registry} {A : Ledger} (hr : r.Represents A) (book : AddressBook) (version : UInt32)
    (partition : PartitionId) (count requestId : UInt64) :
    (∀ cause, A.serving settings.storeName version partition = .error cause →
      route settings r book version partition count requestId = .error (.routing cause)) ∧
    ∀ nodes, A.serving settings.storeName version partition = .ok nodes →
      ∃ order, RoutingOrder settings.strategy requestId
          (nodes.toList.filterMap book.endpoint?) order ∧
        route settings r book version partition count requestId =
          if order.take count.toNat = [] then .error (.noReplica version partition)
          else .ok (String.join ((order.take count.toNat).map (· ++ "\n"))) := by
  let store : Store :=
    { name := settings.storeName, datasets := settings.storeName, registry := r, book
      selector := ⟨settings.strategy, 0⟩, simulation := .fresh settings.health {} .discarding }
  have hstore : (Store.ofSettings settings r book {} .discarding).value = .ok store := by
    rw [Store.ofSettings, Settings.check, hvalid]
    rfl
  have hcandidates : (store.candidates version partition).value = _ :=
    value_candidates hr settings.storeName book version partition
  constructor
  · intro cause hcause
    rw [hcause] at hcandidates
    simp only [route, hstore, Store.value_replicas, hcandidates, Except.map]
  · intro nodes hnodes
    rw [hnodes] at hcandidates
    obtain ⟨order, horder, hselect⟩ := exists_routingOrder settings.strategy requestId
      (nodes.toList.filterMap book.endpoint?) count.toNat
    refine ⟨order, horder, ?_⟩
    simp only [route, hstore, Store.value_replicas, hcandidates, Except.map, Store.value_choose]
    -- nothing was sent yet, so all instances are available and none has a load
    have hsignal : store.simulation.signal = ⟨fun _ => true, fun _ => 0⟩ :=
      Simulation.signal_fresh settings.health {} .discarding
    have hreplicas : store.selector.select store.simulation.signal requestId
        (nodes.toList.filterMap book.endpoint?) count.toNat = order.take count.toNat := by
      rw [hsignal]
      exact hselect
    rw [hreplicas]
    cases order.take count.toNat with
    | nil => rfl
    | cons e rest => rw [if_neg (List.cons_ne_nil e rest), ← lines_eq_join]

end Invocation

/-! ### Answers -/

namespace Snapshot

variable {s : Snapshot} {l : Listing} {settings : Settings}

/-- In whatever order a snapshot is gone through, the answer is the one in ascending order. -/
theorem Listing.Visits.answer_eq (hl : l.Visits s) (settings : Settings) (command : Command) :
    l.answer settings command = answerFrom settings s command := by
  have hload : Registry.setAllListed ∅ l.datasets =
      Registry.setAllListed ∅ s.listing.datasets := by
    by_cases hname : "" ∈ s.datasets
    · rw [hl.setAllListed_eq hname, s.visits_listing.setAllListed_eq hname]
    · obtain ⟨r, hr, hrepresents⟩ := hl.exists_registry hname
      obtain ⟨r', hr', hrepresents'⟩ := s.visits_listing.exists_registry hname
      rw [hr, hr', hrepresents.unique hrepresents']
  rw [answerFrom_eq, Listing.answer, Listing.answer, hload, hl.ofPairs_eq,
    s.visits_listing.ofPairs_eq]

/-- **Answers are determined by the content of a snapshot.**  In whatever order its maps are
gone through, an invocation that finds valid settings and the snapshot is answered as
follows.  If a dataset has no name, it fails.  Otherwise a question about a node prints the
rows of the node, and fails if it has none; a question about a request fails as the lookup of
its partition does, or prints the first of the endpoints of the nodes that serve the
partition, as many as it asks for, in the order of the strategy, and fails if that is none. -/
theorem answered_by_content (hvalid : settings.violation? = none) (hl : l.Visits s) :
    (∀ (i : Invocation) (settingsFile snapshotFile : FileContent) (text : String),
      (Settings.load settingsFile).value = .ok settings → snapshotFile.text = .ok text →
      ofDocument? text = some s →
      i.answer settingsFile snapshotFile = l.answer settings i.command) ∧
    ("" ∈ s.datasets → ∀ command, l.answer settings command =
      .error (.routing (.invalidArgument "Dataset name cannot be empty"))) ∧
    ("" ∉ s.datasets →
      (∀ node, ∃ rows, s.HasRows node rows ∧ l.answer settings (.dump node) =
        if rows = [] then .error (.routing (.nodeNotFound node))
        else .ok (String.join (rows.map (rowLine · ++ "\n")))) ∧
      ∀ (version : UInt32) (partition : PartitionId) (count requestId : UInt64),
        let served := Ledger.serving s.datasets settings.storeName version partition
        let answer := l.answer settings (.route version partition count requestId)
        (∀ cause, served = .error cause → answer = .error (.routing cause)) ∧
        ∀ nodes, served = .ok nodes →
          ∃ order, RoutingOrder settings.strategy requestId
              (nodes.toList.filterMap s.endpoints.endpoint?) order ∧
            answer =
              if order.take count.toNat = [] then .error (.noReplica version partition)
              else .ok (String.join ((order.take count.toNat).map (· ++ "\n")))) := by
  refine ⟨?_, ?_, ?_⟩
  · intro i settingsFile snapshotFile text hsettings htext hsnapshot
    rw [hl.answer_eq, answer, hsettings]
    dsimp only
    rw [htext]
    dsimp only
    rw [hsnapshot]
  · intro hname command
    rw [Listing.answer, hl.setAllListed_eq hname]
    rfl
  · intro hname
    -- whatever the order, the registry represents the datasets of the snapshot
    obtain ⟨r, hload, hr⟩ := hl.exists_registry hname
    constructor
    · intro node
      refine ⟨_, s.hasRows_ofNode node, ?_⟩
      rw [Listing.answer, hload]
      exact dump_eq hr node
    · intro version partition count requestId served answer
      have hanswer : answer =
          route settings r s.endpoints version partition count requestId := by
        show Listing.answer settings l (.route version partition count requestId) = _
        rw [Listing.answer, hload, hl.ofPairs_eq]
      rw [hanswer]
      exact exists_route_eq hvalid hr s.endpoints version partition count requestId

/-- Two datasets share a node, two nodes an endpoint, one node serves nothing, and the maps are
gone through backwards. -/
theorem answered_by_content_of_shared_nodes :
    let settings : Settings := { storeName := "a", strategy := .roundRobin }
    let s : Snapshot :=
      { datasets := .ofList [("b", NodeAssignment.ofEntries [(2, [7])]),
          ("a_v1", NodeAssignment.ofEntries
            [(3, [8, 7]), (1, []), (2, [9, 7]), (5, [7]), (4, [7])])]
        endpoints := .ofPairs [(3, "y"), (2, "x"), (1, "y"), (5, "x")] }
    let l : Listing :=
      { datasets := (s.datasets.toList.map fun e => (e.1, e.2.entries.reverse)).reverse
        endpoints := s.endpoints.toList.reverse }
    l.answer settings (.dump 2) = .ok "a_v1: [7, 9]\nb: [7]\n" ∧
      l.answer settings (.dump 6) = .error (.routing (.nodeNotFound 6)) ∧
      l.answer settings (.route 1 7 5 0) = .ok "x\ny\n" ∧
      l.answer settings (.route 1 7 0 0) = .error (.noReplica 1 7) := by
  intro settings s l
  have hl : l.Visits s := by
    refine ⟨⟨_, List.reverse_perm _, ?_⟩, List.reverse_perm _⟩
    rw [List.forall₂_reverse_iff, List.forall₂_map_left_iff]
    refine List.forall₂_same.mpr fun e _ => ⟨rfl, ?_⟩
    have hlisted := e.2.listedBy_entries
    refine ⟨fun n => ?_, fun n p => ?_⟩
    · simpa using hlisted.nodes n
    · simpa using hlisted.partitions n p
  have hnames : "" ∉ s.datasets := by decide +kernel
  have hvalid : settings.violation? = none := rfl
  obtain ⟨-, -, hanswers⟩ := answered_by_content hvalid hl
  obtain ⟨hdump, hroute⟩ := hanswers hnames
  let nodes : List NodeId := [2, 3, 4, 5]
  have hserved : Ledger.serving s.datasets "a" 1 7 = .ok (.ofList nodes) := by decide +kernel
  -- the order of the replicas is determined, so it is enough to know one
  have hxy : RoutingOrder .roundRobin 0 ["x", "y", "x"] ["x", "y"] :=
    ⟨by simp [or_comm], by simp, fun _ => by decide⟩
  refine ⟨?_, ?_, ?_, ?_⟩
  · obtain ⟨rows, hrows, hanswer⟩ := hdump 2
    have hlist : rows = [("a_v1", [7, 9]), ("b", [7])] :=
      (hrows.unique (s.hasRows_ofNode 2)).trans (by decide +kernel)
    rw [hanswer, hlist]
    rfl
  · obtain ⟨rows, hrows, hanswer⟩ := hdump 6
    have hlist : rows = [] := (hrows.unique (s.hasRows_ofNode 6)).trans (by decide +kernel)
    rw [hanswer, if_pos hlist]
  · obtain ⟨order, horder, hanswer⟩ := (hroute 1 7 5 0).2 _ hserved
    rw [hanswer, horder.unique hxy]
    rfl
  · obtain ⟨order, -, hanswer⟩ := (hroute 1 7 0 0).2 _ hserved
    rw [hanswer]
    rfl

end Snapshot
end PartitionRouting
