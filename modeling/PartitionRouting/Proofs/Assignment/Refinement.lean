import PartitionRouting.Proofs.Assignment.Consistency
import PartitionRouting.Proofs.Assignment.Ledger

/-!
# The registry answers what its ledger determines

The map by dataset of a registry goes through a sequence of writes exactly as the ledger
does, and the views stay consistent on the way.  Both together determine every read, with
the error of a read that finds nothing.

## Main definitions

* `NodeAssignment.load` — an assignment with a listing added to it.
* `NodeAssignment.ListedBy` — a listing visits the nodes and the partitions of an
  assignment.
* `Registry.Represents` — the views of a registry are consistent and hold a ledger.
* `Ledger.Describes` — a registry answers every read and takes every write as a ledger says.

## Main results

* `NodeAssignment.mem_entryOrEmpty_load`, `mem_load` — what a listing adds does not depend on
  its order or its repetitions.
* `NodeAssignment.load_of_listedBy` — a listing loads the assignment that it visits.
* `Registry.represents_apply`, `represents_applyAll` — one write, and any sequence of them,
  takes the registry where it takes the ledger.
* `Registry.Represents.describes` — consistent views answer what their ledger determines.
* `Registry.ofWrites_describes_applyAll` — **the registry refines its ledger.**
-/

namespace PartitionRouting

open Std

/-! ### Loading a listing -/

namespace NodeAssignment

/-- An assignment with one node and some partitions of it added. -/
def loadNode (a : NodeAssignment) (e : NodeId × List PartitionId) : NodeAssignment :=
  e.2.foldl (fun a p => amend a e.1 (·.insert p)) (amend a e.1 id)

/-- An assignment with a listing added to it. -/
def load (a : NodeAssignment) (es : List (NodeId × List PartitionId)) : NodeAssignment :=
  es.foldl loadNode a

/-- Assignments with the same nodes and the same partitions of each are the same. -/
theorem ext_entryOrEmpty {a b : NodeAssignment} (hmem : ∀ n, n ∈ a ↔ n ∈ b)
    (h : ∀ n p, p ∈ entryOrEmpty a n ↔ p ∈ entryOrEmpty b n) : a = b := by
  refine ExtTreeMap.ext_getElem? fun n => ?_
  have hn := hmem n
  have hset : entryOrEmpty a n = entryOrEmpty b n := ExtTreeSet.ext_mem (h n)
  simp only [ExtTreeMap.mem_iff_isSome_getElem?] at hn
  simp only [entryOrEmpty] at hset
  cases ha : a[n]? <;> cases hb : b[n]? <;> simp_all

theorem mem_amend {a : NodeAssignment} {k n : NodeId}
    {f : ExtTreeSet PartitionId → ExtTreeSet PartitionId} :
    n ∈ amend a k f ↔ n = k ∨ n ∈ a := by
  rw [ExtTreeMap.mem_iff_isSome_getElem?, getElem?_amend, ExtTreeMap.mem_iff_isSome_getElem?]
  split <;> simp_all

theorem mem_entryOrEmpty_amend_insert {a : NodeAssignment} {k n : NodeId}
    {p q : PartitionId} :
    q ∈ entryOrEmpty (amend a k (·.insert p)) n ↔ n = k ∧ q = p ∨ q ∈ entryOrEmpty a n := by
  rw [entryOrEmpty_amend]
  split
  · next h =>
    subst h
    rw [ExtTreeSet.mem_insert, Std.compare_eq_iff_eq, eq_comm]
    simp
  · next h => simp [h]

theorem mem_loadNode {a : NodeAssignment} {e : NodeId × List PartitionId} {n : NodeId} :
    n ∈ a.loadNode e ↔ n = e.1 ∨ n ∈ a := by
  obtain ⟨k, ps⟩ := e
  have h : ∀ b : NodeAssignment, n ∈ ps.foldl (fun b p => amend b k (·.insert p)) b ↔
      (n = k ∧ ps ≠ []) ∨ n ∈ b := by
    induction ps with
    | nil => simp
    | cons p rest ih =>
      intro b
      rw [List.foldl_cons, ih, mem_amend]
      by_cases hn : n = k <;> simp [hn]
  rw [loadNode, h, mem_amend]
  by_cases hn : n = k <;> simp [hn]

theorem mem_entryOrEmpty_loadNode {a : NodeAssignment} {e : NodeId × List PartitionId}
    {n : NodeId} {q : PartitionId} :
    q ∈ entryOrEmpty (a.loadNode e) n ↔ n = e.1 ∧ q ∈ e.2 ∨ q ∈ entryOrEmpty a n := by
  obtain ⟨k, ps⟩ := e
  have h : ∀ b : NodeAssignment,
      q ∈ entryOrEmpty (ps.foldl (fun b p => amend b k (·.insert p)) b) n ↔
        n = k ∧ q ∈ ps ∨ q ∈ entryOrEmpty b n := by
    induction ps with
    | nil => simp
    | cons p rest ih =>
      intro b
      rw [List.foldl_cons, ih, mem_entryOrEmpty_amend_insert, List.mem_cons]
      by_cases hn : n = k <;> simp [hn, or_assoc, or_left_comm]
  rw [loadNode, h, entryOrEmpty_amend]
  by_cases hn : n = k <;> simp [hn]

/-- The nodes of a listing are added, in whatever order they come. -/
theorem mem_load {a : NodeAssignment} {es : List (NodeId × List PartitionId)} {n : NodeId} :
    n ∈ a.load es ↔ (∃ e ∈ es, n = e.1) ∨ n ∈ a := by
  unfold load
  induction es generalizing a with
  | nil => simp
  | cons e rest ih => rw [List.foldl_cons, ih, mem_loadNode]; simp [or_assoc, or_left_comm]

/-- The partitions of a listing are added, in whatever order they come. -/
theorem mem_entryOrEmpty_load {a : NodeAssignment} {es : List (NodeId × List PartitionId)}
    {n : NodeId} {q : PartitionId} :
    q ∈ entryOrEmpty (a.load es) n ↔ (∃ e ∈ es, n = e.1 ∧ q ∈ e.2) ∨ q ∈ entryOrEmpty a n := by
  unfold load
  induction es generalizing a with
  | nil => simp
  | cons e rest ih =>
    rw [List.foldl_cons, ih, mem_entryOrEmpty_loadNode]; simp [or_assoc, or_left_comm]

theorem mem_entryOrEmpty {a : NodeAssignment} {n : NodeId} {q : PartitionId} :
    q ∈ entryOrEmpty a n ↔ ∃ ps, a[n]? = some ps ∧ q ∈ ps := by
  rw [entryOrEmpty]
  cases a[n]? <;> simp

theorem exists_mem_entries {a : NodeAssignment} {n : NodeId} {P : List PartitionId → Prop} :
    (∃ e ∈ a.entries, n = e.1 ∧ P e.2) ↔ ∃ ps, a[n]? = some ps ∧ P ps.toList := by
  constructor
  · rintro ⟨e, he, rfl, hP⟩
    obtain ⟨⟨k, ps⟩, hk, rfl⟩ := List.mem_map.mp he
    exact ⟨ps, ExtTreeMap.mem_toList_iff_getElem?_eq_some.mp hk, hP⟩
  · rintro ⟨ps, hps, hP⟩
    exact ⟨(n, ps.toList), List.mem_map.mpr
      ⟨(n, ps), ExtTreeMap.mem_toList_iff_getElem?_eq_some.mpr hps, rfl⟩, rfl, hP⟩

/-- **A listing visits the nodes and the partitions of an assignment**, in any order and as
often as it likes. -/
structure ListedBy (M : NodeAssignment) (es : List (NodeId × List PartitionId)) : Prop where
  /-- It visits the nodes. -/
  nodes : ∀ n, (∃ e ∈ es, n = e.1) ↔ n ∈ M
  /-- At each node it visits the partitions of the node. -/
  partitions : ∀ n p, (∃ e ∈ es, n = e.1 ∧ p ∈ e.2) ↔ p ∈ entryOrEmpty M n

/-- A listing loads the assignment that it visits. -/
theorem load_of_listedBy {M : NodeAssignment} {es : List (NodeId × List PartitionId)}
    (hes : M.ListedBy es) : load ∅ es = M := by
  refine ext_entryOrEmpty (fun n => ?_) fun n p => ?_
  · rw [mem_load, hes.nodes]
    simp
  · have hempty : entryOrEmpty (∅ : NodeAssignment) n = ∅ := by simp [entryOrEmpty]
    rw [mem_entryOrEmpty_load, hes.partitions, hempty]
    simp

/-- The ascending listing of an assignment visits it. -/
theorem listedBy_entries (a : NodeAssignment) : a.ListedBy a.entries where
  nodes n := by
    have h := exists_mem_entries (a := a) (n := n) (P := fun _ => True)
    simp only [and_true] at h
    rw [h, mem_iff_exists_getElem?]
  partitions n p := by
    rw [exists_mem_entries (P := fun ps => p ∈ ps), mem_entryOrEmpty]
    simp only [ExtTreeSet.mem_toList]

/-- An assignment is what its own listing adds to nothing. -/
theorem load_entries (a : NodeAssignment) : load ∅ a.entries = a :=
  load_of_listedBy (listedBy_entries a)

end NodeAssignment

/-! ### What an operation does to the map by dataset -/

theorem amend_insert (m : Ledger) (d : String) (a : NodeAssignment)
    (f : NodeAssignment → NodeAssignment) : amend (m.insert d a) d f = m.insert d (f a) := by
  refine ExtTreeMap.ext_getElem? fun b => ?_
  rw [getElem?_amend, getElem?_insert_eq_ite, getElem?_insert_eq_ite, entryOrEmpty,
    ExtTreeMap.getElem?_insert_self, Option.getD_some]
  split <;> rfl

namespace Views

variable {v : Views} {A : Ledger} {d : String} {a : NodeAssignment}

theorem byDataset_foldl_insert (h : v.byDataset = A.insert d a) (n : NodeId)
    (ps : List PartitionId) :
    (ps.foldl (fun v p => v.insert d n p) v).byDataset =
      A.insert d (ps.foldl (fun a p => amend a n (·.insert p)) a) := by
  induction ps generalizing v a with
  | nil => exact h
  | cons p rest ih =>
    have hstep : (v.insert d n p).byDataset = A.insert d (amend a n (·.insert p)) := by
      simp only [Views.insert, h, amend_insert]
    exact ih hstep

theorem byDataset_loadNode (h : v.byDataset = A.insert d a) (e : NodeId × List PartitionId) :
    (Views.loadNode d v e).byDataset = A.insert d (a.loadNode e) := by
  refine byDataset_foldl_insert ?_ e.1 e.2
  rw [registerNode, h, amend_insert]

/-- Loading a listing of one dataset changes its own assignment alone. -/
theorem byDataset_load (h : v.byDataset = A.insert d a) (es : List (NodeId × List PartitionId)) :
    (v.load d es).byDataset = A.insert d (a.load es) := by
  unfold Views.load NodeAssignment.load
  induction es generalizing v a with
  | nil => exact h
  | cons e rest ih => exact ih (byDataset_loadNode h e)

theorem insert_erase (A : Ledger) (d : String) (a : NodeAssignment) :
    (A.erase d).insert d a = A.insert d a := by
  refine ExtTreeMap.ext_getElem? fun b => ?_
  rw [ExtTreeMap.getElem?_insert, ExtTreeMap.getElem?_insert, ExtTreeMap.getElem?_erase]
  split <;> rfl

/-- A removed dataset that is registered again and loaded has what is loaded. -/
theorem byDataset_replace (v : Views) (d : String) (es : List (NodeId × List PartitionId)) :
    (((v.removeDataset d).registerDataset d).load d es).byDataset =
      v.byDataset.insert d (NodeAssignment.load ∅ es) := by
  rw [← insert_erase]
  refine byDataset_load ?_ es
  rw [registerDataset, removeDataset, amend, entryOrEmpty]
  simp

end Views
namespace Registry

variable {r : Registry}

/-! ### Writes -/

/-- The three views agree with the map by dataset, and that map is a given ledger. -/
structure Represents (r : Registry) (A : Ledger) : Prop where
  /-- The views hold the same triples. -/
  consistent : Views.Consistent r
  /-- The map by dataset is the ledger. -/
  byDataset : r.byDataset = A

theorem represents_empty : Represents ∅ ∅ := ⟨Views.consistent_empty, rfl⟩

/-- **Registries that represent the same ledger are the same**, in every view. -/
theorem Represents.unique {r' : Registry} {A : Ledger} (h : r.Represents A)
    (h' : r'.Represents A) : r = r' :=
  h.consistent.ext h'.consistent (h.byDataset.trans h'.byDataset.symm)

theorem value_attempt_set (r : Registry) (d : String) (a : NodeAssignment) :
    (r.attempt (.set d a)).value =
      if d = "" then .error emptyName
      else .ok (((r.removeDataset d).registerDataset d).load d a.entries) := by
  simp only [attempt, setAssignment]
  split <;> rfl

theorem value_attempt_delete (r : Registry) (d : String) :
    (r.attempt (.delete d)).value =
      if d = "" then .error emptyName
      else .ok (if r.byDataset.contains d then r.removeDataset d else r) := by
  simp only [attempt, deleteAssignment]
  split
  · rfl
  · split <;> rfl

theorem value_attempt_add (r : Registry) (d : String) (n : NodeId) (p : PartitionId) :
    (r.attempt (.add d n p)).value =
      if d = "" then .error emptyName
      else .ok (if r.contains d n p then r else r.insert d n p) := by
  simp only [attempt, addPartition]
  split
  · rfl
  · split <;> rfl

theorem apply_of_value_ok {w : Write} {r' : Registry} (h : (r.attempt w).value = .ok r') :
    r.apply w = r' := by
  rw [apply, h]

theorem apply_of_value_error {w : Write} {e : RoutingError}
    (h : (r.attempt w).value = .error e) : r.apply w = r := by
  rw [apply, h]

/-- A write succeeds exactly when it names a dataset. -/
theorem value_attempt (r : Registry) (w : Write) :
    (r.attempt w).value =
      if w.dataset = "" then .error (.invalidArgument "Dataset name cannot be empty")
      else .ok (r.apply w) := by
  have hvalue : ∃ r', (r.attempt w).value =
      if w.dataset = "" then .error emptyName else .ok r' := by
    cases w with
    | set d a => exact ⟨_, value_attempt_set r d a⟩
    | delete d => exact ⟨_, value_attempt_delete r d⟩
    | add d n p => exact ⟨_, value_attempt_add r d n p⟩
  obtain ⟨r', hr'⟩ := hvalue
  by_cases hd : w.dataset = ""
  · rw [hr', if_pos hd, if_pos hd, emptyName]
  · rw [if_neg hd] at hr' ⊢
    rw [hr', apply_of_value_ok hr']

/-- A write that names no dataset changes nothing. -/
theorem apply_of_dataset_eq_empty {w : Write} (hd : w.dataset = "") : r.apply w = r := by
  have h := value_attempt r w
  rw [if_pos hd] at h
  exact apply_of_value_error h

theorem apply_set {d : String} (hd : d ≠ "") (a : NodeAssignment) :
    r.apply (.set d a) = ((r.removeDataset d).registerDataset d).load d a.entries :=
  apply_of_value_ok ((value_attempt_set r d a).trans (if_neg hd))

theorem apply_delete {d : String} (hd : d ≠ "") :
    r.apply (.delete d) = if r.byDataset.contains d then r.removeDataset d else r :=
  apply_of_value_ok ((value_attempt_delete r d).trans (if_neg hd))

theorem apply_add {d : String} (hd : d ≠ "") (n : NodeId) (p : PartitionId) :
    r.apply (.add d n p) = if r.contains d n p then r else r.insert d n p :=
  apply_of_value_ok ((value_attempt_add r d n p).trans (if_neg hd))

theorem contains_iff {v : Views} {d : String} {n : NodeId} {p : PartitionId} :
    v.contains d n p ↔ p ∈ entryOrEmpty (entryOrEmpty v.byDataset d) n := by
  unfold Views.contains
  cases hd : v.byDataset[d]? with
  | none => simp [entryOrEmpty, hd]
  | some nodes => cases hn : nodes[n]? <;> simp [entryOrEmpty, hd, hn]

variable {A : Ledger}

/-- A partition that is served already adds nothing. -/
theorem amend_insert_of_mem {n : NodeId} {p : PartitionId} {d : String}
    (h : p ∈ entryOrEmpty (entryOrEmpty A d) n) :
    amend A d (amend · n (·.insert p)) = A := by
  have hset : (entryOrEmpty (entryOrEmpty A d) n).insert p = entryOrEmpty (entryOrEmpty A d) n := by
    refine ExtTreeSet.ext_mem fun q => ?_
    rw [ExtTreeSet.mem_insert, Std.compare_eq_iff_eq]
    exact ⟨fun hq => hq.elim (· ▸ h) id, Or.inr⟩
  obtain ⟨ps, hps, -⟩ := NodeAssignment.mem_entryOrEmpty.mp h
  -- the row does not change, and so neither does the ledger
  have hrow : amend (entryOrEmpty A d) n (·.insert p) = entryOrEmpty A d := by
    refine ExtTreeMap.ext_getElem? fun m => ?_
    rw [getElem?_amend, hset]
    split
    · next hm => rw [hm, entryOrEmpty, hps, Option.getD_some]
    · rfl
  refine ExtTreeMap.ext_getElem? fun b => ?_
  rw [getElem?_amend, hrow]
  split
  · next hb =>
    subst hb
    cases ha : A[b]? with
    | none => simp [entryOrEmpty, ha] at hps
    | some a => rw [entryOrEmpty, ha, Option.getD_some]
  · rfl

theorem erase_of_not_mem {d : String} (h : d ∉ A) : A.erase d = A := by
  refine ExtTreeMap.ext_getElem? fun b => ?_
  rw [getElem?_erase_eq_ite]
  split
  · next hb => rw [hb, ExtTreeMap.getElem?_eq_none h]
  · rfl

/-- **One write takes the registry where it takes the ledger.** -/
theorem represents_apply (h : r.Represents A) (w : Write) :
    (r.apply w).Represents (A.write w) := by
  obtain ⟨hc, rfl⟩ := h
  by_cases hd : w.dataset = ""
  · rw [apply_of_dataset_eq_empty hd, Ledger.write_of_dataset_eq_empty hd]
    exact ⟨hc, rfl⟩
  cases w with
  | set d a =>
    have hd : d ≠ "" := hd
    rw [apply_set hd, Ledger.write_set hd]
    -- the old assignment is removed and the new one loaded, consistently at every stage
    refine ⟨Views.consistent_replace hc d a.entries, ?_⟩
    rw [Views.byDataset_replace, NodeAssignment.load_entries]
  | delete d =>
    have hd : d ≠ "" := hd
    rw [apply_delete hd, Ledger.write_delete hd]
    split
    · exact ⟨Views.consistent_removeDataset hc d, rfl⟩
    -- an unknown dataset is not in the ledger either
    · next hmem => exact ⟨hc, (erase_of_not_mem hmem).symm⟩
  | add d n p =>
    have hd : d ≠ "" := hd
    rw [apply_add hd, Ledger.write_add hd]
    split
    -- a partition that is served already adds nothing to the ledger
    · next hmem => exact ⟨hc, (amend_insert_of_mem (contains_iff.mp hmem)).symm⟩
    · exact ⟨Views.consistent_insert hc d n p, rfl⟩

theorem represents_applyAll (h : r.Represents A) (ws : List Write) :
    (r.applyAll ws).Represents (ws.foldl Ledger.write A) := by
  induction ws generalizing r A with
  | nil => exact h
  | cons w rest ih => exact ih (represents_apply h w)

/-! ### Reads -/

/-- The names of the datasets are given in any case. -/
theorem exists_value_datasets (h : r.Represents A) :
    ∃ names, r.datasets.value = .ok names ∧ names.Pairwise (· < ·) ∧ ∀ d, d ∈ names ↔ d ∈ A := by
  have hordered : r.byDataset.keys.Pairwise (· < ·) :=
    (ExtTreeMap.ordered_keys (t := r.byDataset)).imp fun h => compareOfLessAndEq_eq_lt.mp h
  refine ⟨r.byDataset.keys, rfl, hordered, fun d => ?_⟩
  rw [h.byDataset, ExtTreeMap.mem_keys]

theorem value_nodeAssignment (h : r.Represents A) (d : String) :
    (r.nodeAssignment d).value =
      match A[d]? with
      | some a => .ok a
      | none => .error (.datasetNotFound d) := by
  rw [nodeAssignment, h.byDataset]
  cases A[d]? <;> rfl

theorem value_partitions (h : r.Represents A) (d : String) (n : NodeId) :
    (r.partitions d n).value =
      match A[d]? with
      | some a => .ok (a[n]?.getD ∅)
      | none => .error (.datasetNotFound d) := by
  rw [partitions, h.byDataset]
  cases A[d]? <;> rfl

/-- The view by node lists for each node what the ledger lists for it, and nothing for a
node that the ledger does not list. -/
theorem byNode_eq (h : r.Represents A) (n : NodeId) :
    r.byNode[n]? = if A.ofNode n = ∅ then none else some (A.ofNode n) := by
  have hcell : ∀ d, cell r.byNode n d = (A.ofNode n)[d]? := fun d => by
    rw [h.consistent.mirrored, h.byDataset, Ledger.getElem?_ofNode, cell]
  -- an empty map is never kept for a node
  have hne := h.consistent.node_ne_empty n
  cases hn : r.byNode[n]? with
  | none =>
    have hempty : A.ofNode n = ∅ := ExtTreeMap.ext_getElem? fun d => by
      rw [← hcell, cell, hn, Option.bind_none, ExtTreeMap.getElem?_empty]
    rw [if_pos hempty]
  | some datasets =>
    have heq : A.ofNode n = datasets := ExtTreeMap.ext_getElem? fun d => by
      rw [← hcell, cell_of_getElem? hn]
    have hnot : datasets ≠ ∅ := fun he => hne (hn.trans (congrArg some he))
    rw [heq, if_neg hnot]

theorem value_datasetAssignment (h : r.Represents A) (n : NodeId) :
    (r.datasetAssignment n).value =
      if A.ofNode n = ∅ then .error (.nodeNotFound n) else .ok (A.ofNode n) := by
  rw [datasetAssignment, byNode_eq h]
  split <;> rfl

/-- The view by partition lists the nodes that serve a partition, and no partition that
no node serves. -/
theorem cell_byPartition_eq (h : r.Represents A) {d : String} {a : NodeAssignment}
    (hd : A[d]? = some a) (p : PartitionId) :
    cell r.byPartition d p = if a.serving p = ∅ then none else some (a.serving p) := by
  have hset : (cell r.byPartition d p).getD ∅ = a.serving p := ExtTreeSet.ext_mem fun n => by
    rw [h.consistent.served, h.byDataset, cell_of_getElem? hd, NodeAssignment.mem_serving,
      entryOrEmpty]
  -- an empty set is never kept for a partition
  have hne := h.consistent.partition_ne_empty d p
  cases hc : cell r.byPartition d p with
  | none =>
    rw [hc, Option.getD_none] at hset
    rw [if_pos hset.symm]
  | some nodes =>
    rw [hc, Option.getD_some] at hset
    have hnot : nodes ≠ ∅ := fun he => hne (hc.trans (congrArg some he))
    rw [← hset, if_neg hnot]

theorem value_nodesForPartition (h : r.Represents A) (d : String) (p : PartitionId) :
    (r.nodesForPartition d p).value =
      match A[d]? with
      | some a =>
        if a.serving p = ∅ then .error (.partitionNotFound d p) else .ok (a.serving p)
      | none => .error (.datasetNotFound d) := by
  have hknown := h.consistent.known d
  rw [h.byDataset, ExtTreeMap.mem_iff_isSome_getElem?, ExtTreeMap.mem_iff_isSome_getElem?] at hknown
  rw [nodesForPartition]
  cases hd : A[d]? with
  | none =>
    cases hp : r.byPartition[d]? with
    | none => rfl
    | some ps => simp [hd, hp] at hknown
  | some a =>
    cases hp : r.byPartition[d]? with
    | none => simp [hd, hp] at hknown
    | some ps =>
      have hcell := cell_byPartition_eq h hd p
      rw [cell_of_getElem? hp] at hcell
      simp only [hcell]
      split <;> rfl

end Registry

/-! ### The registry and its ledger -/

/-- **A registry answers as a ledger says**: each of its reads gives what the ledger
determines, with the error of a read that finds nothing, and each of its writes succeeds
exactly when it names a dataset. -/
structure Ledger.Describes (A : Ledger) (r : Registry) : Prop where
  /-- The names of the datasets, in ascending order. -/
  datasets : ∃ names, r.datasets.value = .ok names ∧ names.Pairwise (· < ·) ∧
    ∀ d, d ∈ names ↔ d ∈ A
  /-- The assignment of a dataset. -/
  nodeAssignment : ∀ d, (r.nodeAssignment d).value =
    match A[d]? with
    | some a => .ok a
    | none => .error (.datasetNotFound d)
  /-- The partitions of a node; a node that is not part of a known dataset has none. -/
  partitions : ∀ d n, (r.partitions d n).value =
    match A[d]? with
    | some a => .ok (a[n]?.getD ∅)
    | none => .error (.datasetNotFound d)
  /-- The nodes that serve a partition, never an empty set of them. -/
  nodesForPartition : ∀ d p, (r.nodesForPartition d p).value =
    match A[d]? with
    | some a => if a.serving p = ∅ then .error (.partitionNotFound d p) else .ok (a.serving p)
    | none => .error (.datasetNotFound d)
  /-- The datasets of a node, never an empty map of them. -/
  datasetAssignment : ∀ n, (r.datasetAssignment n).value =
    if A.ofNode n = ∅ then .error (.nodeNotFound n) else .ok (A.ofNode n)
  /-- A write is refused when it names no dataset, and succeeds otherwise. -/
  attempt : ∀ w : Registry.Write, (r.attempt w).value =
    if w.dataset = "" then .error (.invalidArgument "Dataset name cannot be empty")
    else .ok (r.apply w)

namespace Registry

theorem Represents.describes {r : Registry} {A : Ledger} (h : r.Represents A) :
    A.Describes r where
  datasets := exists_value_datasets h
  nodeAssignment := value_nodeAssignment h
  partitions := value_partitions h
  nodesForPartition := value_nodesForPartition h
  datasetAssignment := value_datasetAssignment h
  attempt := value_attempt r

/-- **The registry refines its ledger.**  After any sequence of writes to an empty registry,
refused ones among them, every read and every further write is answered as the ledger of
these writes says. -/
theorem ofWrites_describes_applyAll (ws : List Write) :
    (Ledger.ofWrites ws).Describes (applyAll ∅ ws) :=
  (represents_applyAll represents_empty ws).describes

end Registry
end PartitionRouting
