import PartitionRouting.Assignment.Views

/-!
# Consistency of the three views

The three maps of `Views` hold the same triples.  The map by dataset decides: an
entry by node mirrors an entry by dataset, a node is listed under a partition when
the partition is listed under the node, and neither of the other two maps keeps an
empty entry.  Every operation keeps this up, whatever order a listing comes in, as
long as a node is made part of a known dataset only.  So the map by dataset determines
the other two.

## Main definitions

* `cell` — the entry of a map of maps at a pair of keys.
* `Views.Consistent` — the three maps hold the same triples.
* `Views.Change`, `Views.change` — an operation as a value.
* `Views.replacing` — the changes that replace an assignment, one after another.
* `Views.Fit` — each of a sequence of changes finds the views as it needs them.

## Main results

* `Views.consistent_insert`, `consistent_registerNode`, `consistent_registerDataset`,
  `consistent_removeDataset`, `consistent_replace` — every operation keeps the views
  consistent.
* `Views.consistent_stages_iff` — every stage of a sequence of changes is consistent exactly
  if the changes fit.
* `Views.Consistent.ext` — **consistent views are determined by the map by dataset.**
-/

namespace PartitionRouting

open Std

/-! ### Maps of maps -/

section Cell

variable {α β γ : Type} [Ord α] [TransOrd α] [Ord β] [TransOrd β]

/-- The entry of a map of maps at a pair of keys. -/
def cell (m : ExtTreeMap α (ExtTreeMap β γ)) (a : α) (b : β) : Option γ :=
  m[a]?.bind fun row => row[b]?

@[simp] theorem cell_empty (a : α) (b : β) :
    cell (∅ : ExtTreeMap α (ExtTreeMap β γ)) a b = none := by
  simp [cell]

theorem cell_of_getElem? {m : ExtTreeMap α (ExtTreeMap β γ)} {a : α}
    {row : ExtTreeMap β γ} (h : m[a]? = some row) (b : β) : cell m a b = row[b]? := by
  rw [cell, h, Option.bind_some]

theorem mem_of_cell {m : ExtTreeMap α (ExtTreeMap β γ)} {a : α} {b : β} {c : γ}
    (h : cell m a b = some c) : a ∈ m := by
  obtain ⟨row, hrow, -⟩ := Option.bind_eq_some_iff.mp h
  exact mem_iff_exists_getElem?.mpr ⟨row, hrow⟩

/-- A row that is not kept empty is there exactly when it has an entry. -/
theorem mem_iff_exists_cell [LawfulEqOrd β] {m : ExtTreeMap α (ExtTreeMap β γ)} {a : α}
    (hm : m[a]? ≠ some ∅) : a ∈ m ↔ ∃ b c, cell m a b = some c := by
  constructor
  · intro ha
    obtain ⟨row, hrow⟩ := mem_iff_exists_getElem?.mp ha
    have hne : row ≠ ∅ := fun h => hm (hrow.trans (congrArg some h))
    rw [Ne, ExtTreeMap.eq_empty_iff_forall_not_mem, Classical.not_forall] at hne
    obtain ⟨b, hb⟩ := hne
    obtain ⟨c, hc⟩ := mem_iff_exists_getElem?.mp (Classical.not_not.mp hb)
    exact ⟨b, c, (cell_of_getElem? hrow b).trans hc⟩
  · rintro ⟨b, c, h⟩
    exact mem_of_cell h

/-- Rows with the same entries are the same. -/
theorem getElem?_eq_of_cell_eq [LawfulEqOrd β] {m m' : ExtTreeMap α (ExtTreeMap β γ)} {a : α}
    (hmem : a ∈ m ↔ a ∈ m') (h : ∀ b, cell m a b = cell m' a b) : m[a]? = m'[a]? := by
  rw [ExtTreeMap.mem_iff_isSome_getElem?, ExtTreeMap.mem_iff_isSome_getElem?] at hmem
  cases hm : m[a]? with
  | none => cases hm' : m'[a]? <;> simp_all
  | some row =>
    cases hm' : m'[a]? with
    | none => simp_all
    | some row' =>
      refine congrArg some (ExtTreeMap.ext_getElem? fun b => ?_)
      rw [← cell_of_getElem? hm, ← cell_of_getElem? hm', h]

/-- Leaving out an empty row leaves out no entry. -/
theorem bind_filter_isEmpty (row : Option (ExtTreeMap α γ)) (a : α) :
    ((row.filter (!·.isEmpty)).bind fun r => r[a]?) = row.bind fun r => r[a]? := by
  cases row with
  | none => rfl
  | some r =>
    rw [Option.filter]
    split
    · rfl
    · next hr =>
      have hempty : r = ∅ := by simpa using hr
      simp [hempty]

variable [LawfulEqOrd α] [DecidableEq α]

theorem cell_erase (m : ExtTreeMap α (ExtTreeMap β γ)) (k a : α) (b : β) :
    cell (m.erase k) a b = if a = k then none else cell m a b := by
  rw [cell, getElem?_erase_eq_ite]
  split <;> rfl

/-- Touching a row without changing it changes no entry. -/
theorem cell_amend_id (m : ExtTreeMap α (ExtTreeMap β γ)) (k a : α) (b : β) :
    cell (amend m k id) a b = cell m a b := by
  rw [cell, getElem?_amend]
  split
  · next h =>
    subst h
    cases hm : m[a]? <;> simp [cell, entryOrEmpty, hm]
  · rfl

theorem cell_amend [EmptyCollection γ] [LawfulEqOrd β] [DecidableEq β]
    (m : ExtTreeMap α (ExtTreeMap β γ)) (k a : α) (j b : β) (f : γ → γ) :
    cell (amend m k (amend · j f)) a b =
      if a = k ∧ b = j then some (f ((cell m k j).getD ∅)) else cell m a b := by
  rw [cell, getElem?_amend]
  by_cases ha : a = k
  · subst ha
    simp only [if_true, Option.bind_some, getElem?_amend, true_and]
    cases hm : m[a]? <;> simp [cell, entryOrEmpty, hm]
  · simp [ha, cell]

/-- Erasing a key from a row erases its entry alone. -/
theorem cell_erase_row (row : Option (ExtTreeMap α γ)) (k a : α) :
    ((row.map fun r => r.erase k).bind fun r => r[a]?) =
      if a = k then none else row.bind fun r => r[a]? := by
  cases row with
  | none => simp
  | some r => exact getElem?_erase_eq_ite r k a

end Cell

namespace Views

/-- **The three views hold the same triples**, and the views by node and by partition
hold nothing else. -/
structure Consistent (v : Views) : Prop where
  /-- The same datasets are known by node and by partition. -/
  known : ∀ d, d ∈ v.byPartition ↔ d ∈ v.byDataset
  /-- An entry by node mirrors the entry by dataset. -/
  mirrored : ∀ d n, cell v.byNode n d = cell v.byDataset d n
  /-- A node is listed under the partitions that are listed under it. -/
  served : ∀ d n p, n ∈ (cell v.byPartition d p).getD ∅ ↔ p ∈ (cell v.byDataset d n).getD ∅
  /-- No node is kept without datasets. -/
  node_ne_empty : ∀ n : NodeId, v.byNode[n]? ≠ some (∅ : DatasetAssignment)
  /-- No partition is kept without nodes. -/
  partition_ne_empty : ∀ d p, cell v.byPartition d p ≠ some (∅ : ExtTreeSet NodeId)

theorem consistent_empty : Consistent { byDataset := ∅ } where
  known d := by simp
  mirrored d n := by simp
  served d n p := by simp
  node_ne_empty n := by simp
  partition_ne_empty d p := by simp

variable {v w : Views} {d : String}

/-! ### What consistent views have in common -/

/-- **Consistent views are determined by the map by dataset.** -/
theorem Consistent.ext (hv : v.Consistent) (hw : w.Consistent)
    (h : v.byDataset = w.byDataset) : v = w := by
  have hnode : v.byNode = w.byNode := by
    refine ExtTreeMap.ext_getElem? fun n => ?_
    have hcell : ∀ d, cell v.byNode n d = cell w.byNode n d := fun d => by
      rw [hv.mirrored, hw.mirrored, h]
    refine getElem?_eq_of_cell_eq ?_ hcell
    -- a node is listed exactly when it has an entry
    rw [mem_iff_exists_cell (hv.node_ne_empty n), mem_iff_exists_cell (hw.node_ne_empty n)]
    simp only [hcell]
  have hpartition : v.byPartition = w.byPartition := by
    refine ExtTreeMap.ext_getElem? fun d => getElem?_eq_of_cell_eq ?_ fun p => ?_
    · rw [hv.known, hw.known, h]
    · have hmem : ∀ n, n ∈ (cell v.byPartition d p).getD ∅ ↔
          n ∈ (cell w.byPartition d p).getD ∅ := fun n => by
        rw [hv.served, hw.served, h]
      have hset := ExtTreeSet.ext_mem hmem
      -- equal sets are equal entries, since an entry is never an empty set
      have hve := hv.partition_ne_empty d p
      have hwe := hw.partition_ne_empty d p
      cases hvc : cell v.byPartition d p <;> cases hwc : cell w.byPartition d p <;> simp_all
  cases v; cases w; simp_all

/-! ### Operations -/

theorem consistent_registerDataset (h : v.Consistent) (d : String) :
    (v.registerDataset d).Consistent where
  known a := by
    simp only [registerDataset, ExtTreeMap.mem_iff_isSome_getElem?, getElem?_amend]
    have := h.known a
    simp only [ExtTreeMap.mem_iff_isSome_getElem?] at this
    split <;> simp_all
  mirrored a n := by
    simp only [registerDataset, cell_amend_id]
    exact h.mirrored a n
  served a n p := by
    simp only [registerDataset, cell_amend_id]
    exact h.served a n p
  node_ne_empty := h.node_ne_empty
  partition_ne_empty a p := by
    simp only [registerDataset, cell_amend_id]
    exact h.partition_ne_empty a p

/-- The dataset must be known: a node is never listed under a dataset that has no
partitions view. -/
theorem consistent_registerNode (h : v.Consistent) (hd : d ∈ v.byDataset) (n : NodeId) :
    (v.registerNode d n).Consistent where
  known a := by
    have hknown := h.known a
    simp only [registerNode, ExtTreeMap.mem_iff_isSome_getElem?, getElem?_amend] at hd hknown ⊢
    split <;> simp_all
  mirrored a m := by
    simp only [registerNode, cell_amend, and_comm, h.mirrored]
  served a m p := by
    simp only [registerNode, cell_amend, h.served]
    split
    · next ham => rw [ham.1, ham.2]; rfl
    · rfl
  node_ne_empty m := by
    simp only [registerNode, getElem?_amend]
    split
    · exact fun he => ExtTreeMap.insert_ne_empty (Option.some.inj he)
    · exact h.node_ne_empty m
  partition_ne_empty := h.partition_ne_empty

theorem consistent_insert (h : v.Consistent) (d : String) (n : NodeId) (p : PartitionId) :
    (v.insert d n p).Consistent where
  known a := by
    have hknown := h.known a
    simp only [insert, ExtTreeMap.mem_iff_isSome_getElem?, getElem?_amend] at hknown ⊢
    split <;> simp_all
  mirrored a m := by
    simp only [insert, cell_amend, and_comm, h.mirrored]
  served a m q := by
    have hserved := h.served a m q
    simp only [insert, cell_amend]
    -- the entries differ from those before at the inserted triple alone
    by_cases ha : a = d
    · subst ha
      by_cases hm : m = n
      · subst hm
        by_cases hq : q = p
        · subst hq
          simp
        · have hne : ¬p = q := fun h' => hq h'.symm
          simp [hq, hne, hserved]
      · have hne : ¬n = m := fun h' => hm h'.symm
        by_cases hq : q = p
        · subst hq
          simp [hm, hne, hserved]
        · simp [hm, hq, hserved]
    · simp [ha, hserved]
  node_ne_empty m := by
    simp only [insert, getElem?_amend]
    split
    · exact fun he => ExtTreeMap.insert_ne_empty (Option.some.inj he)
    · exact h.node_ne_empty m
  partition_ne_empty a q := by
    simp only [insert, cell_amend]
    split
    · exact fun he => ExtTreeSet.insert_ne_empty (Option.some.inj he)
    · exact h.partition_ne_empty a q

/-! ### Removing a dataset -/

theorem cell_dropFromNode (d : String) (byNode : ExtTreeMap NodeId DatasetAssignment)
    (k n : NodeId) (a : String) :
    cell (dropFromNode d byNode k) n a = if n = k ∧ a = d then none else cell byNode n a := by
  rw [cell, getElem?_dropFromNode]
  by_cases hn : n = k
  · subst hn
    have hrow := cell_erase_row byNode[n]? d a
    simp only [if_true, true_and, bind_filter_isEmpty]
    rw [hrow, cell]
  · simp [hn, cell]

theorem dropFromNode_ne_empty {byNode : ExtTreeMap NodeId DatasetAssignment} {n : NodeId}
    (h : byNode[n]? ≠ some (∅ : DatasetAssignment)) (d : String) (k : NodeId) :
    (dropFromNode d byNode k)[n]? ≠ some (∅ : DatasetAssignment) := by
  rw [getElem?_dropFromNode]
  split
  · intro he
    have := (Option.filter_eq_some_iff.mp he).2
    simp at this
  · exact h

/-- Taking a dataset away from some nodes takes away its entry at each of them alone. -/
theorem cell_foldl_dropFromNode (d : String) (nodes : List NodeId)
    (byNode : ExtTreeMap NodeId DatasetAssignment) (n : NodeId) (a : String) :
    cell (nodes.foldl (dropFromNode d) byNode) n a =
      if n ∈ nodes ∧ a = d then none else cell byNode n a := by
  induction nodes generalizing byNode with
  | nil => simp
  | cons k rest ih =>
    rw [List.foldl_cons, ih, cell_dropFromNode]
    by_cases hk : n = k <;> by_cases ha : a = d <;> simp [hk, ha]

theorem foldl_dropFromNode_ne_empty {byNode : ExtTreeMap NodeId DatasetAssignment} {n : NodeId}
    (h : byNode[n]? ≠ some (∅ : DatasetAssignment)) (d : String) (nodes : List NodeId) :
    (nodes.foldl (dropFromNode d) byNode)[n]? ≠ some (∅ : DatasetAssignment) := by
  induction nodes generalizing byNode with
  | nil => exact h
  | cons k rest ih => exact ih (dropFromNode_ne_empty h d k)

/-- **Removing a dataset removes every entry that mentions it and no other.**  The nodes
to visit are the keys of its own map, and by consistency no other node mentions it. -/
theorem cell_byNode_removeDataset (h : v.Consistent) (d : String) (n : NodeId) (a : String) :
    cell (v.removeDataset d).byNode n a = if a = d then none else cell v.byNode n a := by
  have hmirror := h.mirrored d n
  cases hd : v.byDataset[d]? with
  | none =>
    -- an unknown dataset has no entry at any node
    have hnone : cell v.byNode n d = none := by rw [hmirror, cell, hd, Option.bind_none]
    simp only [removeDataset, hd]
    split
    · next ha => rw [ha, hnone]
    · rfl
  | some nodes =>
    rw [cell_of_getElem? hd] at hmirror
    simp only [removeDataset, hd, cell_foldl_dropFromNode, ExtTreeMap.mem_keys]
    by_cases hn : n ∈ nodes
    · simp [hn]
    · by_cases ha : a = d
      -- a node that is not visited has no entry of the dataset
      · simp [hn, ha, hmirror]
      · simp [ha]

theorem consistent_removeDataset (h : v.Consistent) (d : String) :
    (v.removeDataset d).Consistent where
  known a := by
    have hknown := h.known a
    simp only [removeDataset, ExtTreeMap.mem_erase, hknown]
  mirrored a n := by
    rw [cell_byNode_removeDataset h, h.mirrored]
    exact (cell_erase v.byDataset d a n).symm
  served a n p := by
    simp only [removeDataset, cell_erase]
    split
    · simp
    · exact h.served a n p
  node_ne_empty n := by
    unfold removeDataset
    split
    · exact h.node_ne_empty n
    · exact foldl_dropFromNode_ne_empty (h.node_ne_empty n) d _
  partition_ne_empty a p := by
    simp only [removeDataset, cell_erase]
    split
    · exact nofun
    · exact h.partition_ne_empty a p

/-! ### One change after another -/

/-- A change of the views. -/
inductive Change
  /-- Drops every trace of a dataset. -/
  | remove (dataset : String)
  /-- Makes a dataset known. -/
  | register (dataset : String)
  /-- Makes a node part of a dataset. -/
  | node (dataset : String) (node : NodeId)
  /-- Records that a node serves a partition. -/
  | partition (dataset : String) (node : NodeId) (partition : PartitionId)

/-- The views after a change. -/
def change (v : Views) : Change → Views
  | .remove d => v.removeDataset d
  | .register d => v.registerDataset d
  | .node d n => v.registerNode d n
  | .partition d n p => v.insert d n p

/-- What a change asks of the views that it finds: the dataset that a node is made part of
must be known. -/
def Change.Fits (v : Views) : Change → Prop
  | .node d _ => d ∈ v.byDataset
  | _ => True

/-- Each change of a sequence fits the views that it finds. -/
def Fit (v : Views) : List Change → Prop
  | [] => True
  | c :: rest => c.Fits v ∧ (v.change c).Fit rest

/-- A node made part of a dataset that was unknown is missing in the view by partition. -/
theorem consistent_registerNode_iff (h : v.Consistent) (d : String) (n : NodeId) :
    (v.registerNode d n).Consistent ↔ d ∈ v.byDataset := by
  constructor
  · intro hnode
    have hknown : d ∈ v.byPartition := (hnode.known d).mpr ExtTreeMap.mem_insert_self
    exact (h.known d).mp hknown
  · intro hd
    exact consistent_registerNode h hd n

/-- **A change keeps the views consistent exactly if it fits them.** -/
theorem consistent_change_iff (h : v.Consistent) (c : Change) :
    (v.change c).Consistent ↔ c.Fits v := by
  cases c with
  | remove d => exact iff_of_true (consistent_removeDataset h d) trivial
  | register d => exact iff_of_true (consistent_registerDataset h d) trivial
  | node d n => exact consistent_registerNode_iff h d n
  | partition d n p => exact iff_of_true (consistent_insert h d n p) trivial

/-- **Every stage of a sequence of changes is consistent exactly if each change fits** the
views that it finds. -/
theorem consistent_stages_iff (h : v.Consistent) (cs : List Change) :
    (∀ k, ((cs.take k).foldl change v).Consistent) ↔ v.Fit cs := by
  induction cs generalizing v with
  | nil => simpa [Fit] using h
  | cons c rest ih =>
    constructor
    · intro hall
      -- the first stage shows that the first change fits
      have hc : (v.change c).Consistent := hall 1
      exact ⟨(consistent_change_iff h c).mp hc, (ih hc).mp fun k => hall (k + 1)⟩
    · rintro ⟨hc, hrest⟩ k
      cases k with
      | zero => exact h
      | succ k => exact (ih ((consistent_change_iff h c).mpr hc)).mpr hrest k

theorem consistent_foldl_change (h : v.Consistent) {cs : List Change} (hcs : v.Fit cs) :
    (cs.foldl change v).Consistent := by
  have hlast := (consistent_stages_iff h cs).mpr hcs cs.length
  rwa [List.take_length] at hlast

/-! ### Loading a listing -/

/-- The changes that load a listing, one after another. -/
def loading (d : String) (es : List (NodeId × List PartitionId)) : List Change :=
  es.flatMap fun e => .node d e.1 :: e.2.map (.partition d e.1)

theorem foldl_loading (v : Views) (d : String) (es : List (NodeId × List PartitionId)) :
    (loading d es).foldl change v = v.load d es := by
  unfold loading load
  induction es generalizing v with
  | nil => rfl
  | cons e rest ih =>
    rw [List.flatMap_cons, List.foldl_append, ih, List.foldl_cons, List.foldl_cons,
      List.foldl_map]
    rfl

/-- A change that adds a node or a partition to a dataset. -/
def Change.Extends (d : String) : Change → Prop
  | .node b _ => b = d
  | .partition b _ _ => b = d
  | _ => False

theorem extends_of_mem_loading {es : List (NodeId × List PartitionId)} {c : Change}
    (hc : c ∈ loading d es) : c.Extends d := by
  obtain ⟨e, -, hc⟩ := List.mem_flatMap.mp hc
  rcases List.mem_cons.mp hc with rfl | hc
  · rfl
  · obtain ⟨p, -, rfl⟩ := List.mem_map.mp hc
    rfl

/-- A known dataset stays known while it is extended, so the changes fit. -/
theorem fit_of_extends (hd : d ∈ v.byDataset) {cs : List Change}
    (hcs : ∀ c ∈ cs, c.Extends d) : v.Fit cs := by
  induction cs generalizing v with
  | nil => trivial
  | cons c rest ih =>
    have hrest : ∀ x ∈ rest, x.Extends d := fun x hx => hcs x (List.mem_cons_of_mem c hx)
    have hc : c.Extends d := hcs c List.mem_cons_self
    cases c with
    | remove b => exact hc.elim
    | register b => exact hc.elim
    | node b n =>
      obtain rfl : b = d := hc
      exact ⟨hd, ih ExtTreeMap.mem_insert_self hrest⟩
    | partition b n p =>
      obtain rfl : b = d := hc
      exact ⟨trivial, ih ExtTreeMap.mem_insert_self hrest⟩

theorem fit_loading (hd : d ∈ v.byDataset) (es : List (NodeId × List PartitionId)) :
    v.Fit (loading d es) := fit_of_extends hd fun _ => extends_of_mem_loading

/-! ### Replacing an assignment -/

/-- The changes that replace the assignment of a dataset by what a listing visits, one after
another. -/
def replacing (d : String) (es : List (NodeId × List PartitionId)) : List Change :=
  .remove d :: .register d :: loading d es

theorem foldl_replacing (v : Views) (d : String) (es : List (NodeId × List PartitionId)) :
    (replacing d es).foldl change v = ((v.removeDataset d).registerDataset d).load d es :=
  foldl_loading _ d es

/-- The dataset is registered before any node is made part of it. -/
theorem fit_replacing (v : Views) (d : String) (es : List (NodeId × List PartitionId)) :
    v.Fit (replacing d es) :=
  ⟨trivial, trivial, fit_loading ExtTreeMap.mem_insert_self es⟩

/-- **Replacing an assignment by a listing keeps the views consistent**, whatever the listing
repeats and whatever its order. -/
theorem consistent_replace (h : v.Consistent) (d : String)
    (es : List (NodeId × List PartitionId)) :
    (((v.removeDataset d).registerDataset d).load d es).Consistent := by
  rw [← foldl_replacing]
  exact consistent_foldl_change h (fit_replacing v d es)

end Views
end PartitionRouting
