import PartitionRouting.Proofs.Assignment.Refinement

/-!
# Replacing an assignment at once or building it up

The assignment of a dataset can be written in two ways: as a whole, when the old one is
removed and the new one loaded node by node, or piece by piece, when the old one is deleted
and every partition of every node is added on its own.  An addition cannot say that a
dataset has no nodes or a node no partitions, and apart from that both ways lead to the same
registry.

## Main definitions

* `NodeAssignment.ofPairs` — the assignment that is built up from nothing by additions.

## Main results

* `Ledger.getElem?_foldl_write` — writes of one dataset change its own assignment alone.
* `NodeAssignment.ofPairs_eq_iff` — which assignments can be built up.
* `Registry.replaced_as_built` — **replacing an assignment leads where building it up does,**
  in whatever order either is done and whatever was assigned before.
-/

namespace PartitionRouting

open Std

/-! ### Building an assignment up -/

namespace NodeAssignment

/-- The assignment that is built up from nothing when one partition of a node is added after
another. -/
def ofPairs (ts : List (NodeId × PartitionId)) : NodeAssignment :=
  ts.foldl (fun a t => amend a t.1 (·.insert t.2)) ∅

theorem mem_foldl_amend {ts : List (NodeId × PartitionId)} {a : NodeAssignment} {n : NodeId} :
    n ∈ ts.foldl (fun a t => amend a t.1 (·.insert t.2)) a ↔ (∃ p, (n, p) ∈ ts) ∨ n ∈ a := by
  induction ts generalizing a with
  | nil => simp
  | cons t rest ih =>
    obtain ⟨m, q⟩ := t
    rw [List.foldl_cons, ih, mem_amend]
    by_cases h : n = m
    · subst h
      simp
    · simp [h]

theorem mem_entryOrEmpty_foldl_amend {ts : List (NodeId × PartitionId)} {a : NodeAssignment}
    {n : NodeId} {p : PartitionId} :
    p ∈ entryOrEmpty (ts.foldl (fun a t => amend a t.1 (·.insert t.2)) a) n ↔
      (n, p) ∈ ts ∨ p ∈ entryOrEmpty a n := by
  induction ts generalizing a with
  | nil => simp
  | cons t rest ih =>
    rw [List.foldl_cons, ih, mem_entryOrEmpty_amend_insert, List.mem_cons, Prod.ext_iff]
    simp only [or_assoc, or_left_comm]

theorem mem_ofPairs {ts : List (NodeId × PartitionId)} {n : NodeId} :
    n ∈ ofPairs ts ↔ ∃ p, (n, p) ∈ ts := by
  rw [ofPairs, mem_foldl_amend]
  simp

theorem mem_entryOrEmpty_ofPairs {ts : List (NodeId × PartitionId)} {n : NodeId}
    {p : PartitionId} : p ∈ entryOrEmpty (ofPairs ts) n ↔ (n, p) ∈ ts := by
  have hempty : entryOrEmpty (∅ : NodeAssignment) n = ∅ := by simp [entryOrEmpty]
  rw [ofPairs, mem_entryOrEmpty_foldl_amend, hempty]
  simp

variable {M : NodeAssignment}

/-- A node that serves a partition is part of the assignment. -/
theorem mem_of_mem_entryOrEmpty {n : NodeId} {p : PartitionId} (hp : p ∈ entryOrEmpty M n) :
    n ∈ M := by
  obtain ⟨ps, hps, -⟩ := mem_entryOrEmpty.mp hp
  exact mem_iff_exists_getElem?.mpr ⟨ps, hps⟩

/-- **What can be built up** is an assignment all of whose nodes have partitions. -/
theorem ofPairs_eq_iff {ts : List (NodeId × PartitionId)}
    (hts : ∀ n p, (n, p) ∈ ts ↔ p ∈ entryOrEmpty M n) :
    ofPairs ts = M ↔ ∀ n ∈ M, ∃ p, p ∈ entryOrEmpty M n := by
  constructor
  · rintro rfl n hn
    obtain ⟨p, hp⟩ := mem_ofPairs.mp hn
    exact ⟨p, (hts n p).mp hp⟩
  · intro hfull
    refine ext_entryOrEmpty (fun n => ?_) fun n p => ?_
    · simp only [mem_ofPairs, hts]
      constructor
      · rintro ⟨p, hp⟩
        exact mem_of_mem_entryOrEmpty hp
      · exact hfull n
    · rw [mem_entryOrEmpty_ofPairs, hts]

end NodeAssignment

/-! ### Writes of one dataset -/

/-- The writes that delete a dataset and add partitions of its nodes, one after another. -/
def Registry.buildUp (d : String) (ts : List (NodeId × PartitionId)) : List Registry.Write :=
  .delete d :: ts.map fun t => .add d t.1 t.2

theorem Registry.dataset_of_mem_buildUp {d : String} {ts : List (NodeId × PartitionId)}
    {u : Registry.Write} (hu : u ∈ buildUp d ts) : u.dataset = d := by
  rcases List.mem_cons.mp hu with rfl | hu
  · rfl
  · obtain ⟨t, -, rfl⟩ := List.mem_map.mp hu
    rfl

namespace Ledger

variable {A : Ledger} {d : String}

/-- Writes of one dataset change its own assignment, one after another, and no other. -/
theorem getElem?_foldl_write (hd : d ≠ "") {us : List Registry.Write}
    (hus : ∀ u ∈ us, u.dataset = d) (A : Ledger) (b : String) :
    (us.foldl write A)[b]? =
      if b = d then us.foldl (fun a u => u.replace a) A[b]? else A[b]? := by
  induction us generalizing A with
  | nil => simp
  | cons u rest ih =>
    have hu : u.dataset = d := hus u List.mem_cons_self
    have hrest : ∀ x ∈ rest, x.dataset = d := fun x hx => hus x (List.mem_cons_of_mem u hx)
    rw [List.foldl_cons, List.foldl_cons, ih hrest, getElem?_write, hu]
    by_cases hb : b = d
    · subst hb
      simp [hd]
    · simp [hb]

/-- Additions to a dataset that is not known build its assignment up from nothing. -/
theorem foldl_replace_add (d : String) (ts : List (NodeId × PartitionId)) :
    (ts.map fun t => Registry.Write.add d t.1 t.2).foldl (fun a u => u.replace a) none =
      if ts = [] then none else some (NodeAssignment.ofPairs ts) := by
  have hsome : ∀ a : NodeAssignment,
      (ts.map fun t => Registry.Write.add d t.1 t.2).foldl (fun a u => u.replace a) (some a) =
        some (ts.foldl (fun a t => amend a t.1 (·.insert t.2)) a) := by
    induction ts with
    | nil => intro a; rfl
    | cons t rest ih => intro a; exact ih _
  cases ts with
  | nil => rfl
  | cons t rest =>
    -- the first addition makes the dataset known, so the others find it
    have hfirst := hsome ∅
    rw [if_neg (List.cons_ne_nil t rest), NodeAssignment.ofPairs, ← hfirst]
    rfl

/-- **Building an assignment up** makes it what is added, and leaves the dataset deleted if
nothing is. -/
theorem getElem?_foldl_buildUp (hd : d ≠ "") (A : Ledger) (ts : List (NodeId × PartitionId))
    (b : String) :
    ((Registry.buildUp d ts).foldl write A)[b]? =
      if b = d then (if ts = [] then none else some (NodeAssignment.ofPairs ts)) else A[b]? := by
  have hus : ∀ u ∈ Registry.buildUp d ts, u.dataset = d := fun u hu =>
    Registry.dataset_of_mem_buildUp hu
  rw [getElem?_foldl_write hd hus, ← foldl_replace_add d ts]
  rfl

theorem getElem?_write_set (hd : d ≠ "") (M : NodeAssignment) (b : String) :
    (A.write (.set d M))[b]? = if b = d then some M else A[b]? := by
  rw [getElem?_write]
  by_cases hb : b = d
  · subst hb
    rw [if_pos ⟨rfl, hd⟩, if_pos rfl]
    rfl
  · rw [if_neg fun h => hb h.1, if_neg hb]

/-- Where the assignment of one dataset is set, it makes no difference what it was. -/
theorem write_set_congr {B : Ledger} (hd : d ≠ "") (h : ∀ b, b ≠ d → A[b]? = B[b]?)
    (M : NodeAssignment) : A.write (.set d M) = B.write (.set d M) := by
  refine ExtTreeMap.ext_getElem? fun b => ?_
  rw [getElem?_write_set hd, getElem?_write_set hd]
  split
  · rfl
  · next hb => exact h b hb

end Ledger

/-! ### The registry -/

namespace Registry

variable {r r' : Registry} {A B : Ledger} {d : String}

/-- Two sequences of writes lead to the same registry exactly if they lead to the same
ledger. -/
theorem applyAll_eq_iff (h : r.Represents A) (us vs : List Write) :
    r.applyAll us = r.applyAll vs ↔ us.foldl Ledger.write A = vs.foldl Ledger.write A := by
  have hus := represents_applyAll h us
  have hvs := represents_applyAll h vs
  constructor
  · intro heq
    rw [← hus.byDataset, ← hvs.byDataset, heq]
  · intro heq
    rw [heq] at hus
    exact hus.unique hvs

/-- Registries that give the same assignment for a dataset hold the same one. -/
theorem getElem?_eq_of_nodeAssignment (h : r.Represents A) (h' : r'.Represents B)
    (heq : (r.nodeAssignment d).value = (r'.nodeAssignment d).value) : A[d]? = B[d]? := by
  rw [value_nodeAssignment h, value_nodeAssignment h'] at heq
  cases hA : A[d]? with
  | none =>
    cases hB : B[d]? with
    | none => rfl
    | some b => simp [hA, hB] at heq
  | some a =>
    cases hB : B[d]? with
    | none => simp [hA, hB] at heq
    | some b => simpa [hA, hB] using heq

/-- Writes of one dataset leave the assignments of all others as they are. -/
theorem nodeAssignment_applyAll (h : r.Represents A) (hd : d ≠ "") {us : List Write}
    (hus : ∀ u ∈ us, u.dataset = d) {b : String} (hb : b ≠ d) :
    ((r.applyAll us).nodeAssignment b).value = (r.nodeAssignment b).value := by
  have hother := Ledger.getElem?_foldl_write hd hus A b
  rw [if_neg hb] at hother
  rw [value_nodeAssignment (represents_applyAll h us), value_nodeAssignment h, hother]

/-- Loading an assignment into a removed dataset sets it, in whatever order its nodes and
partitions are visited. -/
theorem load_eq_apply_set (h : r.Represents A) (hd : d ≠ "") {M : NodeAssignment}
    {es : List (NodeId × List PartitionId)} (hes : M.ListedBy es) :
    ((r.removeDataset d).registerDataset d).load d es = r.apply (.set d M) := by
  have hset := represents_apply h (.set d M)
  rw [Ledger.write_set hd] at hset
  refine Represents.unique ⟨?_, ?_⟩ hset
  · exact Views.consistent_replace h.consistent d es
  · rw [Views.byDataset_replace, NodeAssignment.load_of_listedBy hes, h.byDataset]

/-- Building an assignment up leads where setting it does exactly if it has nodes and all of
them have partitions. -/
theorem applyAll_buildUp_eq_iff (h : r.Represents A) (hd : d ≠ "") {M : NodeAssignment}
    {ts : List (NodeId × PartitionId)} (hts : ∀ n p, (n, p) ∈ ts ↔ p ∈ entryOrEmpty M n) :
    r.applyAll (buildUp d ts) = r.apply (.set d M) ↔
      M ≠ ∅ ∧ ∀ n ∈ M, ∃ p, p ∈ entryOrEmpty M n := by
  -- the two ledgers can only differ at the dataset itself
  have hledger : (buildUp d ts).foldl Ledger.write A = A.write (.set d M) ↔
      (if ts = [] then none else some (NodeAssignment.ofPairs ts)) = some M := by
    constructor
    · intro heq
      have hat := congrArg (·[d]?) heq
      simp only [Ledger.getElem?_foldl_buildUp hd, Ledger.getElem?_write_set hd, if_true] at hat
      exact hat
    · intro heq
      refine ExtTreeMap.ext_getElem? fun b => ?_
      rw [Ledger.getElem?_foldl_buildUp hd, Ledger.getElem?_write_set hd, heq]
  have hwrites := applyAll_eq_iff h (buildUp d ts) [.set d M]
  rw [← NodeAssignment.ofPairs_eq_iff hts]
  refine (hwrites.trans hledger).trans ?_
  by_cases hnil : ts = []
  · subst hnil
    have hempty : NodeAssignment.ofPairs [] = ∅ := rfl
    rw [if_pos rfl, hempty]
    refine iff_of_false (Option.some_ne_none M).symm ?_
    rintro ⟨hne, heq⟩
    exact hne heq.symm
  · rw [if_neg hnil, Option.some.injEq]
    refine ⟨fun heq => ⟨?_, heq⟩, fun h => h.2⟩
    rintro rfl
    -- something was added, so the assignment is not empty
    obtain ⟨⟨n, p⟩, hmem⟩ := List.exists_mem_of_ne_nil ts hnil
    have hn : n ∈ NodeAssignment.ofPairs ts := NodeAssignment.mem_ofPairs.mpr ⟨p, hmem⟩
    rw [heq] at hn
    exact ExtTreeMap.not_mem_empty hn

/-- **Replacing the assignment of a dataset leads where building it up does.**  After any
sequence of writes, setting an assignment and deleting the dataset and adding each partition
of each node, in any order and with any repetitions, give the same registry, in every view,
provided that the assignment has nodes and that all of them have partitions; otherwise they
do not.  All these writes succeed.  What setting an assignment leads to depends neither on
the order in which its nodes and partitions are visited nor on what the dataset was assigned
before: two registries that agree on all other datasets become the same. -/
theorem replaced_as_built (ws : List Write) {d : String} (hd : d ≠ "") (M : NodeAssignment) :
    (∀ ts : List (NodeId × PartitionId), (∀ n p, (n, p) ∈ ts ↔ p ∈ entryOrEmpty M n) →
      ((applyAll ∅ ws).applyAll (buildUp d ts) =
        (applyAll ∅ ws).apply (.set d M) ↔ M ≠ ∅ ∧ ∀ n ∈ M, ∃ p, p ∈ entryOrEmpty M n)) ∧
      (∀ w : Write, w.dataset = d → ∀ r : Registry, (r.attempt w).value = .ok (r.apply w)) ∧
      (∀ es : List (NodeId × List PartitionId), M.ListedBy es →
        (((applyAll ∅ ws).removeDataset d).registerDataset d).load d es =
          (applyAll ∅ ws).apply (.set d M)) ∧
      ∀ ws' : List Write,
        (∀ b, b ≠ d → ((applyAll ∅ ws').nodeAssignment b).value =
          ((applyAll ∅ ws).nodeAssignment b).value) →
        (applyAll ∅ ws').apply (.set d M) = (applyAll ∅ ws).apply (.set d M) := by
  have hr := represents_applyAll represents_empty ws
  refine ⟨?_, ?_, ?_, ?_⟩
  · intro ts hts
    exact applyAll_buildUp_eq_iff hr hd hts
  · rintro w rfl r
    exact (value_attempt r w).trans (if_neg hd)
  · intro es hes
    exact load_eq_apply_set hr hd hes
  · intro ws' hsame
    have hr' := represents_applyAll represents_empty ws'
    -- the assignment that is replaced is the only place where the two may differ
    have hother : ∀ b, b ≠ d → (ws'.foldl Ledger.write ∅)[b]? = (ws.foldl Ledger.write ∅)[b]? :=
      fun b hb => getElem?_eq_of_nodeAssignment hr' hr (hsame b hb)
    have hset := represents_apply hr (.set d M)
    rw [← Ledger.write_set_congr hd hother] at hset
    exact (represents_apply hr' (.set d M)).unique hset

/-- The nodes of the new assignment are shared with another dataset and with the old
assignment, which was longer. -/
theorem replaced_as_built_of_shared_nodes :
    let ws : List Write := [.add "b" 1 7, .set "a" (.ofPairs [(1, 3), (2, 7), (4, 4)])]
    let M : NodeAssignment := .ofPairs [(1, 7), (1, 8), (2, 7)]
    let ts : List (NodeId × PartitionId) := [(2, 7), (1, 8), (1, 7), (1, 8)]
    let us : List Write := [.add "a" 5 5, .delete "a"]
    let r := applyAll ∅ ws
    r.applyAll (buildUp "a" ts) = r.apply (.set "a" M) ∧
      ((r.removeDataset "a").registerDataset "a").load "a" [(2, [7]), (1, [8, 7, 8])] =
        r.apply (.set "a" M) ∧
      (applyAll ∅ (ws ++ us)).apply (.set "a" M) = r.apply (.set "a" M) := by
  intro ws M ts us r
  have hd : "a" ≠ "" := by decide
  obtain ⟨hbuilt, -, hlisted, hsame⟩ := replaced_as_built ws hd M
  have hts : ∀ n p, (n, p) ∈ ts ↔ p ∈ entryOrEmpty M n := by
    intro n p
    rw [NodeAssignment.mem_entryOrEmpty_ofPairs]
    grind
  have hr : r.Represents (Ledger.ofWrites ws) := represents_applyAll represents_empty ws
  refine ⟨(hbuilt ts hts).mpr ⟨?_, ?_⟩, hlisted _ ⟨?_, ?_⟩, hsame (ws ++ us) ?_⟩
  · decide +kernel
  · exact (NodeAssignment.ofPairs_eq_iff hts).mp (by decide +kernel)
  · intro n
    rw [NodeAssignment.mem_ofPairs]
    simp only [List.mem_cons, List.not_mem_nil, or_false, exists_eq_or_imp, exists_eq_left,
      Prod.mk.injEq, exists_or, exists_eq_right]
    simp [or_comm]
  · intro n p
    rw [NodeAssignment.mem_entryOrEmpty_ofPairs]
    simp [or_comm, or_left_comm, and_or_left]
  · intro b hb
    rw [applyAll, List.foldl_append]
    exact nodeAssignment_applyAll hr hd (by decide) hb

end Registry
end PartitionRouting
