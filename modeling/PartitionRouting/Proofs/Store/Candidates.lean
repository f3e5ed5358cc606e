import PartitionRouting.Proofs.Store.Replicas

/-!
# Candidates follow the registry and the address book

The candidates of a request are looked up anew for every request, so they follow every write
to the registry and every change of the address book at once.  Both have a history, and of
each only a small part counts: of the registry the writes that name the dataset of the
version, and of the address book the last change of each node that serves the partition.

## Main definitions

* `AddressBook.Change`, `AddressBook.applyAll` — a change of the address book as a value, and
  the address book after a sequence of changes.
* `AddressBook.standing?` — the endpoint that was last given to a node and not forgotten
  since; `AddressBook.standing?_eq_some_iff` says that it is.
* `Store.Action.write?`, `Store.Action.change?` — the writes and the changes among the actions.

## Main results

* `AddressBook.endpoint?_applyAll` — the address book gives the endpoints that stand.
* `Store.sources_run` — the registry and the address book of a store are those of the writes
  and the changes among its actions.
* `Store.candidates_follow` — **the candidates of a request follow the writes and the
  changes**, those that concern it alone, and each node without an endpoint is reported once.
-/

namespace PartitionRouting

open Std

/-! ### The history of the address book -/

namespace AddressBook

/-- A change of the address book. -/
inductive Change
  /-- Gives a node a new endpoint. -/
  | put (node : NodeId) (endpoint : Endpoint)
  /-- Forgets the endpoint of a node. -/
  | remove (node : NodeId)
  deriving DecidableEq

/-- The node that a change concerns. -/
def Change.node : Change → NodeId
  | put n _ => n
  | remove n => n

/-- The endpoint that a change leaves its node with. -/
def Change.endpoint? : Change → Option Endpoint
  | put _ e => some e
  | remove _ => none

/-- The address book after a change. -/
def apply (book : AddressBook) : Change → AddressBook
  | .put n e => book.put n e
  | .remove n => book.remove n

/-- The address book after a sequence of changes. -/
def applyAll (book : AddressBook) (cs : List Change) : AddressBook := cs.foldl apply book

/-- The endpoint that was last given to a node by a sequence of changes, and not forgotten
since. -/
def standing? (cs : List Change) (n : NodeId) : Option Endpoint :=
  (cs.filter (·.node == n)).getLast?.bind Change.endpoint?

variable {book : AddressBook} {cs : List Change} {n : NodeId} {e : Endpoint}

theorem standing?_concat (cs : List Change) (c : Change) (n : NodeId) :
    standing? (cs ++ [c]) n = if c.node = n then c.endpoint? else standing? cs n := by
  rw [standing?, List.filter_append]
  by_cases h : c.node = n
  · simp [h]
  · simp [h, standing?]

/-- **An endpoint stands** if it was given to the node by some change and no later one
concerns the node. -/
theorem standing?_eq_some_iff :
    standing? cs n = some e ↔
      ∃ before after, cs = before ++ .put n e :: after ∧ ∀ c ∈ after, c.node ≠ n := by
  induction cs using List.reverseRecOn with
  | nil => simp [standing?]
  | append_singleton cs c ih =>
    rw [standing?_concat]
    constructor
    · intro h
      by_cases hc : c.node = n
      · rw [if_pos hc] at h
        cases c with
        | put m x =>
          obtain rfl : m = n := hc
          obtain rfl : x = e := Option.some.inj h
          exact ⟨cs, [], rfl, by simp⟩
        | remove m => contradiction
      · rw [if_neg hc] at h
        obtain ⟨before, after, rfl, hafter⟩ := ih.mp h
        refine ⟨before, after ++ [c], by simp, fun x hx => ?_⟩
        rcases List.mem_append.mp hx with hx | hx
        · exact hafter x hx
        · rwa [List.mem_singleton.mp hx]
    · rintro ⟨before, after, heq, hafter⟩
      -- the last change is the one that gives the endpoint, or a later one
      rcases List.eq_nil_or_concat' after with rfl | ⟨rest, last, rfl⟩
      · obtain ⟨-, hlast⟩ := List.append_inj' heq rfl
        obtain rfl := List.singleton_inj.mp hlast
        exact if_pos rfl
      · rw [← List.cons_append, ← List.append_assoc] at heq
        obtain ⟨hcs, hlast⟩ := List.append_inj' heq rfl
        obtain rfl := List.singleton_inj.mp hlast
        rw [if_neg (hafter c (by simp))]
        exact ih.mpr ⟨before, rest, hcs, fun x hx => hafter x (by simp [hx])⟩

/-- A change concerns its node alone. -/
theorem endpoint?_apply (book : AddressBook) (c : Change) (n : NodeId) :
    (book.apply c).endpoint? n = if c.node = n then c.endpoint? else book.endpoint? n := by
  cases c with
  | put m e =>
    rw [endpoint?, apply, put, ExtTreeMap.getElem?_insert]
    exact ite_congr (propext Std.compare_eq_iff_eq) (fun _ => rfl) fun _ => rfl
  | remove m =>
    rw [endpoint?, apply, remove, ExtTreeMap.getElem?_erase]
    exact ite_congr (propext Std.compare_eq_iff_eq) (fun _ => rfl) fun _ => rfl

/-- **The address book gives the endpoints that stand.** -/
theorem endpoint?_applyAll (cs : List Change) (n : NodeId) :
    (applyAll ∅ cs).endpoint? n = standing? cs n := by
  induction cs using List.reverseRecOn with
  | nil => simp [applyAll, endpoint?, standing?]
  | append_singleton cs c ih =>
    rw [standing?_concat, ← ih, applyAll, List.foldl_append]
    exact endpoint?_apply _ c n

/-- The changes that set an address book up. -/
def puts (pairs : List (NodeId × Endpoint)) : List Change := pairs.map fun e => .put e.1 e.2

theorem ofPairs_eq_applyAll (pairs : List (NodeId × Endpoint)) :
    ofPairs pairs = applyAll ∅ (puts pairs) := by
  rw [applyAll, puts, List.foldl_map]
  rfl

end AddressBook

/-! ### The part of the registry that is read -/

/-- Of a sequence of writes those count that name the dataset. -/
theorem Ledger.getElem?_foldl_write_eq (A : Ledger) (ws : List Registry.Write) (d : String) :
    (ws.foldl write A)[d]? = (ws.filter (·.dataset == d)).foldl
      (fun a w => if d = "" then a else w.replace a) A[d]? := by
  induction ws generalizing A with
  | nil => rfl
  | cons w rest ih =>
    rw [List.foldl_cons, ih, getElem?_write]
    by_cases hw : w.dataset = d
    · have hstep : (if d = w.dataset ∧ d ≠ "" then w.replace A[d]? else A[d]?) =
          if d = "" then A[d]? else w.replace A[d]? := by
        by_cases hd : d = ""
        · rw [if_pos hd, if_neg fun h => h.2 hd]
        · rw [if_neg hd, if_pos ⟨hw.symm, hd⟩]
      rw [hstep, List.filter_cons, if_pos (beq_iff_eq.mpr hw), List.foldl_cons]
    · rw [if_neg fun h => hw h.1.symm, List.filter_cons, if_neg fun h => hw (beq_iff_eq.mp h)]

namespace Registry

/-- A lookup that finds nothing reports what is missing, and any other reports nothing. -/
theorem events_nodesForPartition (r : Registry) (d : String) (p : PartitionId) :
    (r.nodesForPartition d p).events =
      match (r.nodesForPartition d p).value with
      | .ok _ => []
      | .error (.datasetNotFound _) => [.unknownDataset d]
      | .error _ => [.unassignedPartition d p] := by
  rw [nodesForPartition]
  cases r.byPartition[d]? with
  | none => rfl
  | some ps =>
    dsimp only
    cases ps[p]? <;> rfl

theorem nodesForPartition_eq {r : Registry} {A : Ledger} (h : r.Represents A) (d : String)
    (p : PartitionId) :
    r.nodesForPartition d p =
      match A[d]? with
      | none => .fail (.unknownDataset d) (.datasetNotFound d)
      | some a =>
        if a.serving p = ∅ then .fail (.unassignedPartition d p) (.partitionNotFound d p)
        else .ok (a.serving p) := by
  have hvalue := value_nodesForPartition h d p
  have hevents := r.events_nodesForPartition d p
  rw [hvalue] at hevents
  -- value and events are known, and together they are the attempt
  cases hd : A[d]? with
  | none =>
    rw [hd] at hvalue hevents
    exact Logged.ext hvalue hevents
  | some a =>
    rw [hd] at hvalue hevents
    dsimp only at hvalue hevents ⊢
    by_cases hnone : a.serving p = ∅
    · rw [if_pos hnone] at hvalue hevents ⊢
      exact Logged.ext hvalue hevents
    · rw [if_neg hnone] at hvalue hevents ⊢
      exact Logged.ext hvalue hevents

end Registry

/-- The nodes that serve a partition of a dataset, in ascending order. -/
def Ledger.servers (A : Ledger) (d : String) (p : PartitionId) : List NodeId :=
  ((A[d]?.getD ∅).serving p).toList

theorem Ledger.pairwise_servers (A : Ledger) (d : String) (p : PartitionId) :
    (A.servers d p).Pairwise (· < ·) :=
  (ExtTreeSet.ordered_toList (t := (A[d]?.getD ∅).serving p)).imp fun h =>
    compareOfLessAndEq_eq_lt.mp h

theorem Ledger.mem_servers {A : Ledger} {d : String} {p : PartitionId} {n : NodeId} :
    n ∈ A.servers d p ↔ ∃ a, A[d]? = some a ∧ p ∈ entryOrEmpty a n := by
  rw [servers, ExtTreeSet.mem_toList, NodeAssignment.mem_serving]
  cases A[d]? with
  | none => simp [entryOrEmpty]
  | some a => simp

/-! ### What a request is answered -/

section Lookup

variable {r : Registry} {A : Ledger} {store d : String} {version : UInt32}

theorem candidates_of_version (r : Registry) (book : AddressBook) (hv : version ≠ 0)
    (hd : d = datasetName store version) (p : PartitionId) :
    candidates store r book version p =
      (r.nodesForPartition d p).andThen fun nodes =>
        Attempt.succeed (reachable book d p nodes.toList) := by
  have hname : datasetForVersion store version = .ok d := by
    rw [hd]
    exact if_neg hv
  rw [candidates, hname]
  rfl

/-- If nodes serve the partition, those that can be reached are the candidates. -/
theorem candidates_of_served (hr : r.Represents A) (book : AddressBook) (hv : version ≠ 0)
    (hd : d = datasetName store version) {p : PartitionId} (hserved : A.servers d p ≠ []) :
    candidates store r book version p = .succeed (reachable book d p (A.servers d p)) := by
  obtain ⟨n, hn⟩ := List.exists_mem_of_ne_nil _ hserved
  obtain ⟨a, hA, -⟩ := Ledger.mem_servers.mp hn
  have hservers : A.servers d p = (a.serving p).toList := by rw [Ledger.servers, hA]; rfl
  rw [hservers, ne_eq, ExtTreeSet.toList_eq_nil_iff] at hserved
  rw [candidates_of_version r book hv hd, Registry.nodesForPartition_eq hr, hA, hservers]
  dsimp only
  rw [if_neg hserved]
  rfl

/-- If none does, it is said what is missing. -/
theorem candidates_of_unserved (hr : r.Represents A) (book : AddressBook) (hv : version ≠ 0)
    (hd : d = datasetName store version) {p : PartitionId} (hnone : A.servers d p = []) :
    candidates store r book version p =
      if A[d]?.isSome then .fail (.unassignedPartition d p) (.partitionNotFound d p)
      else .fail (.unknownDataset d) (.datasetNotFound d) := by
  rw [Ledger.servers, ExtTreeSet.toList_eq_nil_iff] at hnone
  rw [candidates_of_version r book hv hd, Registry.nodesForPartition_eq hr]
  cases hA : A[d]? with
  | none => rfl
  | some a =>
    rw [hA, Option.getD_some] at hnone
    dsimp only
    rw [if_pos hnone]
    rfl

end Lookup

/-- Of the address book only the endpoints of the nodes count. -/
theorem reachable_congr {book book' : AddressBook} {nodes : List NodeId}
    (h : ∀ n ∈ nodes, book.endpoint? n = book'.endpoint? n) (dataset : String)
    (partition : PartitionId) :
    reachable book dataset partition nodes = reachable book' dataset partition nodes := by
  have hmissing : ∀ n ∈ nodes, (book.endpoint? n).isNone = (book'.endpoint? n).isNone := by
    intro n hn
    rw [h n hn]
  rw [reachable, reachable, List.filterMap_congr h, List.filter_congr hmissing]

/-! ### The history of a store -/

namespace Store

/-- The write that an action is. -/
def Action.write? : Action → Option Registry.Write
  | write w => some w
  | _ => none

/-- The change of the address book that an action is. -/
def Action.change? : Action → Option AddressBook.Change
  | putEndpoint n e => some (.put n e)
  | removeEndpoint n => some (.remove n)
  | _ => none

/-- What candidates are looked up in: the name of the store that the datasets are of, the
registry and the address book. -/
def sources (s : Store) : String × Registry × AddressBook := (s.datasets, s.registry, s.book)

theorem sources_replicas (s : Store) (requestId : UInt64) (version : UInt32)
    (partition : PartitionId) (count : Nat) :
    (s.replicas requestId version partition count).value.2.sources = s.sources := by
  rw [value_replicas]
  cases (s.candidates version partition).value with
  | error cause => rfl
  | ok cs =>
    dsimp only
    rw [value_choose]
    rfl

theorem sources_startEach (s : Store) (stem : String) (replicas : List Endpoint) :
    (s.startEach stem replicas).value.sources = s.sources := by
  rw [startEach]
  generalize replicas.zipIdx = rs
  induction rs generalizing s with
  | nil => rfl
  | cons r rest ih => exact ih _

theorem sources_startReplicas (s : Store) (stem : String) (requestId : UInt64)
    (version : UInt32) (partition : PartitionId) (count : Nat) :
    (s.startReplicas stem requestId version partition count).value.2.sources = s.sources := by
  have hasked := s.sources_replicas requestId version partition count
  rw [startReplicas, Logged.value_bind]
  cases hvalue : (s.replicas requestId version partition count).value with
  | mk answer t =>
    rw [hvalue] at hasked
    cases answer with
    | error cause => exact hasked
    | ok replicas => exact (t.sources_startEach stem replicas).trans hasked

theorem sources_write (s : Store) (w : Registry.Write) :
    (s.write w).value.2.sources = (s.datasets, s.registry.apply w, s.book) := by
  rw [write, Logged.value_bind, Registry.apply]
  cases (s.registry.attempt w).value <;> rfl

/-- An action changes what candidates are looked up in only if it is a write or a change of
the address book. -/
theorem sources_perform (s : Store) (a : Action) :
    (s.perform a).value.sources =
      (s.datasets, s.registry.applyAll a.write?.toList, s.book.applyAll a.change?.toList) := by
  cases a with
  | write w => exact s.sources_write w
  | putEndpoint n e => rfl
  | removeEndpoint n => rfl
  | simulate a => rfl
  | replicas id version partition count =>
    exact s.sources_replicas id version partition count
  | startReplicas stem id version partition count =>
    exact s.sources_startReplicas stem id version partition count

/-- **The registry and the address book of a store are those of the writes and the changes**
among its actions. -/
theorem sources_run (s : Store) (as : List Action) :
    (s.run as).value.sources =
      (s.datasets, s.registry.applyAll (as.filterMap Action.write?),
        s.book.applyAll (as.filterMap Action.change?)) := by
  induction as generalizing s with
  | nil => rfl
  | cons a rest ih =>
    have hfirst := s.sources_perform a
    obtain ⟨hdatasets, hlooked⟩ := Prod.mk.inj hfirst
    obtain ⟨hregistry, hbook⟩ := Prod.mk.inj hlooked
    -- an action is a write, a change of an endpoint, or neither
    have hwrites : (a :: rest).filterMap Action.write? =
        a.write?.toList ++ rest.filterMap Action.write? := by
      rw [List.filterMap_cons]
      cases a.write? <;> rfl
    have hchanges : (a :: rest).filterMap Action.change? =
        a.change?.toList ++ rest.filterMap Action.change? := by
      rw [List.filterMap_cons]
      cases a.change? <;> rfl
    have hrest := ih (s.perform a).value
    rw [hdatasets, hregistry, hbook] at hrest
    rw [hwrites, hchanges, Registry.applyAll, AddressBook.applyAll, List.foldl_append,
      List.foldl_append]
    exact hrest

/-! ### Candidates -/

/-- The changes of the address book since it was set up from pairs, by the actions and
before. -/
def changes (pairs : List (NodeId × Endpoint)) (as : List Action) : List AddressBook.Change :=
  AddressBook.puts pairs ++ as.filterMap Action.change?

/-- The candidates of a request after a sequence of actions, where the registry holds nothing
at first and the address book is set up from pairs. -/
def candidatesAfter (s : Store) (pairs : List (NodeId × Endpoint)) (as : List Action)
    (version : UInt32) (partition : PartitionId) : Attempt (List Endpoint) :=
  let start : Store := { s with registry := ∅, book := .ofPairs pairs }
  (start.run as).value.candidates version partition

theorem candidatesAfter_eq (s : Store) (pairs : List (NodeId × Endpoint)) (as : List Action)
    (version : UInt32) (partition : PartitionId) :
    s.candidatesAfter pairs as version partition =
      PartitionRouting.candidates s.datasets (Registry.applyAll ∅ (as.filterMap Action.write?))
        (AddressBook.applyAll ∅ (changes pairs as)) version partition := by
  let start : Store := { s with registry := ∅, book := .ofPairs pairs }
  have hbook : AddressBook.applyAll ∅ (changes pairs as) =
      AddressBook.applyAll (.ofPairs pairs) (as.filterMap Action.change?) := by
    rw [changes, AddressBook.ofPairs_eq_applyAll, AddressBook.applyAll, List.foldl_append]
    rfl
  obtain ⟨hdatasets, hlooked⟩ := Prod.mk.inj (start.sources_run as)
  obtain ⟨hregistry, hchanged⟩ := Prod.mk.inj hlooked
  rw [candidatesAfter, candidates, hdatasets, hregistry, hchanged, hbook]

variable {version : UInt32}

/-- Candidates depend on the writes of the dataset and on the changes of the nodes that serve
the partition, and on no others. -/
theorem candidatesAfter_congr (s : Store) (pairs : List (NodeId × Endpoint))
    {as as' : List Action} (hv : version ≠ 0) {partition : PartitionId} {A : Ledger}
    {d : String} (hA : A = .ofWrites (as.filterMap Action.write?))
    (hd : d = datasetName s.datasets version)
    (hwrites : (as'.filterMap Action.write?).filter (·.dataset == d) =
      (as.filterMap Action.write?).filter (·.dataset == d))
    (hchanges : ∀ n ∈ A.servers d partition,
      (as'.filterMap Action.change?).filter (·.node == n) =
        (as.filterMap Action.change?).filter (·.node == n)) :
    s.candidatesAfter pairs as' version partition =
      s.candidatesAfter pairs as version partition := by
  let A' : Ledger := .ofWrites (as'.filterMap Action.write?)
  have hr : (Registry.applyAll ∅ (as.filterMap Action.write?)).Represents A := by
    rw [hA]
    exact Registry.represents_applyAll Registry.represents_empty _
  have hr' : (Registry.applyAll ∅ (as'.filterMap Action.write?)).Represents A' :=
    Registry.represents_applyAll Registry.represents_empty _
  -- only the writes of this dataset and the changes of its nodes count
  have hsame : A'[d]? = A[d]? := by
    rw [hA, Ledger.ofWrites, Ledger.getElem?_foldl_write_eq, ← hwrites,
      ← Ledger.getElem?_foldl_write_eq]
    rfl
  have hservers : A'.servers d partition = A.servers d partition := by
    rw [Ledger.servers, hsame, Ledger.servers]
  rw [candidatesAfter_eq, candidatesAfter_eq]
  by_cases hnone : A.servers d partition = []
  · rw [candidates_of_unserved hr _ hv hd hnone,
      candidates_of_unserved hr' _ hv hd (hservers.trans hnone), hsame]
  · rw [candidates_of_served hr _ hv hd hnone, candidates_of_served hr' _ hv hd (hservers ▸ hnone),
      hservers, reachable_congr fun n hn => ?_]
    rw [AddressBook.endpoint?_applyAll, AddressBook.endpoint?_applyAll, AddressBook.standing?,
      AddressBook.standing?, changes, changes, List.filter_append, List.filter_append,
      hchanges n hn]

/-- **The candidates of a request follow the writes and the changes.**  After any sequence of
actions they are looked up among the nodes whose assignment in the dataset of the version
holds the partition.  If there are such nodes, their endpoints that stand are given in
ascending order of the nodes, and each node that has none is left out and reported by one
warning, in the same order.  If there is no such node, the request is refused, by an error
that tells an unknown dataset from an unassigned partition, and warned of nothing.  No write
of another dataset, no change of another node and no other action makes a difference to the
answer or to what is reported, wherever it comes in the sequence. -/
theorem candidates_follow (s : Store) (pairs : List (NodeId × Endpoint)) (as : List Action)
    (hv : version ≠ 0) (partition : PartitionId) :
    let A : Ledger := .ofWrites (as.filterMap Action.write?)
    let d := datasetName s.datasets version
    let endpoint? := AddressBook.standing? (changes pairs as)
    let answer := s.candidatesAfter pairs as version partition
    ∃ nodes : List NodeId, nodes.Pairwise (· < ·) ∧
      (∀ n, n ∈ nodes ↔ ∃ a, A[d]? = some a ∧ partition ∈ entryOrEmpty a n) ∧
      (nodes ≠ [] → answer.value = .ok (nodes.filterMap endpoint?) ∧
        answer.events = (nodes.filter fun n => (endpoint? n).isNone).map
          (.missingEndpoint · partition d) ∧
        ∀ e ∈ answer.events, e.level = .warn) ∧
      (nodes = [] → answer.value = .error
          (if A[d]?.isSome then .partitionNotFound d partition else .datasetNotFound d) ∧
        ∀ e ∈ answer.events, e.level = .error) ∧
      ∀ as' : List Action,
        (as'.filterMap Action.write?).filter (·.dataset == d) =
          (as.filterMap Action.write?).filter (·.dataset == d) →
        (∀ n ∈ nodes, (as'.filterMap Action.change?).filter (·.node == n) =
          (as.filterMap Action.change?).filter (·.node == n)) →
        s.candidatesAfter pairs as' version partition = answer := by
  intro A d endpoint? answer
  have hr : (Registry.applyAll ∅ (as.filterMap Action.write?)).Represents A :=
    Registry.represents_applyAll Registry.represents_empty _
  have hanswer : answer = _ := s.candidatesAfter_eq pairs as version partition
  have hendpoint : (AddressBook.applyAll ∅ (changes pairs as)).endpoint? = endpoint? :=
    funext (AddressBook.endpoint?_applyAll (changes pairs as))
  -- the nodes are those that the ledger of the writes lists
  refine ⟨A.servers d partition, A.pairwise_servers d partition, fun n => Ledger.mem_servers,
    ?_, ?_, ?_⟩
  · intro hserved
    rw [hanswer, candidates_of_served hr _ hv rfl hserved]
    refine ⟨?_, ?_, ?_⟩
    · rw [← hendpoint]
      rfl
    · rw [← hendpoint]
      rfl
    · intro e he
      obtain ⟨n, -, rfl⟩ := List.mem_map.mp he
      rfl
  · intro hnone
    rw [hanswer, candidates_of_unserved hr _ hv rfl hnone]
    cases A[d]?.isSome with
    | true => exact ⟨rfl, fun e he => by rw [List.mem_singleton.mp he]; rfl⟩
    | false => exact ⟨rfl, fun e he => by rw [List.mem_singleton.mp he]; rfl⟩
  · intro as' hwrites hchanges
    exact s.candidatesAfter_congr pairs hv rfl rfl hwrites hchanges

/-- Of the nodes that serve a partition one was given another endpoint at once, one lost its
endpoint and one got its endpoint late; a second dataset, another node and a request make no
difference. -/
theorem candidates_follow_of_lost_endpoint :
    let s : Store :=
      { name := "store", datasets := "store", registry := ∅, book := ∅
        selector := ⟨.leastLoaded, 0⟩, simulation := .fresh {} {} .discarding }
    let pairs : List (NodeId × Endpoint) := [(0, "a"), (1, "b"), (0, "c")]
    let as : List Action :=
      [.write (.set "store_v1" (.ofEntries [(2, [1]), (0, [1]), (3, [2])])), .removeEndpoint 1,
        .write (.add "store_v1" 1 1), .putEndpoint 2 "d"]
    let as' : List Action :=
      .putEndpoint 3 "x" :: .write (.add "store_v2" 0 1) :: as ++
        [.startReplicas "r" 1 1 1 2, .removeEndpoint 3]
    (s.candidatesAfter pairs as 1 1).value = .ok ["c", "d"] ∧
      (s.candidatesAfter pairs as 1 1).events = [.missingEndpoint 1 1 "store_v1"] ∧
      s.candidatesAfter pairs as' 1 1 = s.candidatesAfter pairs as 1 1 := by
  intro s pairs as as'
  obtain ⟨nodes, -, hmem, -, -, hframe⟩ :=
    s.candidates_follow pairs as (by decide : (1 : UInt32) ≠ 0) 1
  have hservers : (Ledger.ofWrites (as.filterMap Action.write?)).servers "store_v1" 1 =
      [0, 1, 2] := by decide +kernel
  have hd : datasetName s.datasets 1 = "store_v1" := by decide +kernel
  have hwrites : (as'.filterMap Action.write?).filter (·.dataset == "store_v1") =
      (as.filterMap Action.write?).filter (·.dataset == "store_v1") := rfl
  refine ⟨by decide +kernel, by decide +kernel, hframe as' (hd ▸ hwrites) ?_⟩
  intro n hn
  have hlisted : n ∈ [0, 1, 2] := hservers ▸ Ledger.mem_servers.mpr ((hmem n).mp hn)
  simp only [List.mem_cons, List.not_mem_nil, or_false] at hlisted
  rcases hlisted with rfl | rfl | rfl <;> rfl

/-- Where no node serves a partition, the candidates are not an empty list but an error. -/
theorem candidates_refused_of_unserved :
    let s : Store :=
      { name := "store", datasets := "store", registry := ∅, book := ∅
        selector := ⟨.leastLoaded, 0⟩, simulation := .fresh {} {} .discarding }
    let as : List Action := [.write (.add "store_v1" 1 7)]
    (Ledger.ofWrites (as.filterMap Action.write?)).servers "store_v1" 8 = [] ∧
      (s.candidatesAfter [(1, "a")] as 1 8).value = .error (.partitionNotFound "store_v1" 8) ∧
      (s.candidatesAfter [(1, "a")] as 1 8).value ≠ .ok [] := by
  intro s as
  have hrefused : (s.candidatesAfter [(1, "a")] as 1 8).value =
      .error (.partitionNotFound "store_v1" 8) := by decide +kernel
  refine ⟨by decide +kernel, hrefused, ?_⟩
  rw [hrefused]
  intro h
  contradiction

end Store
end PartitionRouting
