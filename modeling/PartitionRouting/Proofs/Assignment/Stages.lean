import PartitionRouting.Proofs.Assignment.Replacement

/-!
# The views at every stage of a write

Replacing the assignment of a dataset takes many steps: the old assignment is removed, the
dataset is registered again, and the new one is loaded node by node and partition by
partition.  The views are consistent after each of these steps, in whatever order the new
assignment is visited.

Inside the removal they are not.  There the dataset is taken away from one node of its
own map after another, while the view by partition still lists it.  Each of these nodes is
still listed when its turn comes, and in the end nothing mentions the dataset any more.

## Main definitions

* `Views.Lacks` — one dataset is gone, and all else is as it was.

## Main results

* `Views.exists_row_of_visit` — **a node is found with the dataset when its turn comes.**
* `Views.foldl_dropFromNode_of_perm` — the nodes may be visited in any order.
* `Views.lacks_removeDataset` — removing a dataset removes its entries and no others.
* `Views.consistent_throughout` — **consistent views stay consistent at every stage.**
-/

namespace PartitionRouting

open Std

namespace Views

variable {v : Views} {d : String} {nodes : NodeAssignment} {ks : List NodeId}

/-! ### Taking a dataset away from its nodes -/

theorem dropFromNode_comm (d : String) (byNode : ExtTreeMap NodeId DatasetAssignment)
    (j k : NodeId) :
    dropFromNode d (dropFromNode d byNode j) k = dropFromNode d (dropFromNode d byNode k) j := by
  by_cases hjk : j = k
  · rw [hjk]
  have hkj : ¬k = j := fun h => hjk h.symm
  refine ExtTreeMap.ext_getElem? fun n => ?_
  simp only [getElem?_dropFromNode, if_neg hjk, if_neg hkj]
  by_cases hj : n = j
  · rw [if_pos hj, if_neg fun hk => hjk (hj.symm.trans hk), if_pos hj]
  · rw [if_neg hj, if_neg hj]

/-- **The nodes of a dataset may be visited in any order** to take it away from them. -/
theorem foldl_dropFromNode_of_perm (hd : v.byDataset[d]? = some nodes)
    (hks : ks.Perm nodes.keys) :
    ks.foldl (dropFromNode d) v.byNode = (v.removeDataset d).byNode := by
  have hsame := hks.foldl_eq' (fun j _ k _ byNode => dropFromNode_comm d byNode j k) v.byNode
  simp only [removeDataset, hd, hsame]

/-- **A node is found with the dataset when its turn comes.**  It was listed with the dataset
at the start, and the visits before have taken the dataset away from other nodes. -/
theorem exists_row_of_visit (h : v.Consistent) (hd : v.byDataset[d]? = some nodes)
    (hks : ks.Perm nodes.keys) {before after : List NodeId} {n : NodeId}
    (hsplit : ks = before ++ n :: after) :
    ∃ row, (before.foldl (dropFromNode d) v.byNode)[n]? = some row ∧ d ∈ row := by
  have hnodup : ks.Nodup := hks.nodup_iff.mpr nodes.nodup_keys
  rw [hsplit] at hnodup
  have hbefore : n ∉ before := fun hmem =>
    (List.nodup_append.mp hnodup).2.2 n hmem n List.mem_cons_self rfl
  have hn : n ∈ nodes := by
    have hmem : n ∈ ks := hsplit ▸ List.mem_append_right before List.mem_cons_self
    exact ExtTreeMap.mem_keys.mp (hks.mem_iff.mp hmem)
  obtain ⟨ps, hps⟩ := mem_iff_exists_getElem?.mp hn
  -- the entry of the node is what it was, and mirrors the one by dataset
  have hcell : cell (before.foldl (dropFromNode d) v.byNode) n d = some ps := by
    rw [cell_foldl_dropFromNode, if_neg fun hmem => hbefore hmem.1, h.mirrored,
      cell_of_getElem? hd, hps]
  obtain ⟨row, hrow, hentry⟩ := Option.bind_eq_some_iff.mp hcell
  exact ⟨row, hrow, mem_iff_exists_getElem?.mpr ⟨ps, hentry⟩⟩

/-! ### Views without a dataset -/

/-- **One dataset is gone**: no map mentions it, and every entry of every other dataset is as
it was. -/
structure Lacks (w : Views) (d : String) (v : Views) : Prop where
  /-- No map mentions the dataset. -/
  unmentioned : d ∉ w.byDataset ∧ d ∉ w.byPartition ∧ ∀ n, cell w.byNode n d = none
  /-- Every map has for every other dataset what it had before. -/
  untouched : ∀ b, b ≠ d → w.byDataset[b]? = v.byDataset[b]? ∧
    w.byPartition[b]? = v.byPartition[b]? ∧ ∀ n, cell w.byNode n b = cell v.byNode n b

/-- **Removing a dataset removes every trace of it and nothing else.** -/
theorem lacks_removeDataset (h : v.Consistent) (d : String) : (v.removeDataset d).Lacks d v where
  unmentioned := by
    refine ⟨?_, ?_, fun n => ?_⟩
    · simp [removeDataset]
    · simp [removeDataset]
    · rw [cell_byNode_removeDataset h, if_pos rfl]
  untouched b hb := by
    refine ⟨?_, ?_, fun n => ?_⟩
    · exact (getElem?_erase_eq_ite v.byDataset d b).trans (if_neg hb)
    · exact (getElem?_erase_eq_ite v.byPartition d b).trans (if_neg hb)
    · rw [cell_byNode_removeDataset h, if_neg hb]

/-! ### Replacing an assignment -/

/-- The changes lead where setting the assignment does, in whatever order they visit it. -/
theorem value_setAssignment_eq (h : v.Consistent) (hd : d ≠ "") {M : NodeAssignment}
    {es : List (NodeId × List PartitionId)} (hes : M.ListedBy es) :
    (Registry.setAssignment v d M).value = .ok ((replacing d es).foldl change v) := by
  have hv : Registry.Represents v v.byDataset := ⟨h, rfl⟩
  rw [foldl_replacing, Registry.load_eq_apply_set hv hd hes]
  exact (Registry.value_attempt v (.set d M)).trans (if_neg hd)

/-- **Consistent views stay consistent at every stage.**  Removing a dataset, registering it
and inserting a partition keep any consistent views consistent, and making a node part of a
dataset does so exactly if the dataset is known.  So the views are consistent after each of
the changes that replace an assignment, whose last stage is what setting the assignment
gives.  While a dataset is removed, each of its nodes is found with it when its turn comes,
in whatever order they are visited, and afterwards nothing mentions the dataset and all other
entries are as they were. -/
theorem consistent_throughout (h : v.Consistent) (d : String) :
    ((v.removeDataset d).Consistent ∧ (v.registerDataset d).Consistent ∧
      (∀ n, (v.registerNode d n).Consistent ↔ d ∈ v.byDataset) ∧
      ∀ n p, (v.insert d n p).Consistent) ∧
    (∀ es : List (NodeId × List PartitionId),
      (∀ k, (((replacing d es).take k).foldl change v).Consistent) ∧
      (replacing d es).foldl change v = ((v.removeDataset d).registerDataset d).load d es ∧
      ∀ M : NodeAssignment, d ≠ "" → M.ListedBy es →
        (Registry.setAssignment v d M).value = .ok ((replacing d es).foldl change v)) ∧
    (∀ nodes : NodeAssignment, v.byDataset[d]? = some nodes → ∀ ks, ks.Perm nodes.keys →
      (∀ before n after, ks = before ++ n :: after →
        ∃ row, (before.foldl (dropFromNode d) v.byNode)[n]? = some row ∧ d ∈ row) ∧
      ks.foldl (dropFromNode d) v.byNode = (v.removeDataset d).byNode) ∧
    (v.removeDataset d).Lacks d v := by
  refine ⟨⟨?_, ?_, ?_, ?_⟩, ?_, ?_, lacks_removeDataset h d⟩
  · exact consistent_removeDataset h d
  · exact consistent_registerDataset h d
  · exact consistent_registerNode_iff h d
  · exact consistent_insert h d
  · intro es
    refine ⟨?_, foldl_replacing v d es, ?_⟩
    · exact (consistent_stages_iff h (replacing d es)).mpr (fit_replacing v d es)
    · intro M hd hes
      exact value_setAssignment_eq h hd hes
  · intro nodes hd ks hks
    refine ⟨?_, foldl_dropFromNode_of_perm hd hks⟩
    -- a node that was not visited yet still has the dataset in its row
    intro before n after hsplit
    exact exists_row_of_visit h hd hks hsplit

/-- The views hold a dataset without a name, which no write can make known.  Node 5 has no
partitions, nodes 4 and 5 are left without datasets, and the new assignment comes back to
node 4. -/
theorem consistent_throughout_of_nameless_dataset :
    let cs : List Change := [.partition "" 1 7, .partition "a" 1 3, .node "a" 5,
      .partition "a" 4 3]
    let v : Views := cs.foldl change ∅
    let es : List (NodeId × List PartitionId) := [(4, [3, 3]), (1, []), (4, [7])]
    v.Consistent ∧ ¬(v.registerNode "b" 1).Consistent ∧
      (((replacing "a" es).take 6).foldl change v).Consistent ∧
      (∃ row, ([5, 4].foldl (dropFromNode "a") v.byNode)[(1 : NodeId)]? = some row ∧ "a" ∈ row) ∧
      (v.removeDataset "a").byNode.keys = [1] ∧ (v.removeDataset "a").Lacks "a" v := by
  intro cs v es
  have hfit : Fit ∅ cs := ⟨trivial, trivial, ExtTreeMap.mem_insert_self, trivial, trivial⟩
  have hv : v.Consistent := consistent_foldl_change consistent_empty hfit
  obtain ⟨-, hstages, hvisits, hlacks⟩ := consistent_throughout hv "a"
  have hunknown := (consistent_throughout hv "b").1.2.2.1 1
  have hnodes : v.byDataset["a"]? = some (entryOrEmpty v.byDataset "a") := by decide +kernel
  have hkeys : [5, 4, 1].Perm (entryOrEmpty v.byDataset "a").keys := by decide +kernel
  refine ⟨hv, ?_, (hstages es).1 6, ?_, by decide +kernel, hlacks⟩
  · rw [hunknown]
    decide +kernel
  · exact (hvisits _ hnodes _ hkeys).1 [5, 4] 1 [] rfl

end Views
end PartitionRouting
