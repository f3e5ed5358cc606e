import PartitionRouting.Assignment.Registry

/-!
# The assignments as one map

What the registry has to answer is determined by a single map from the names of the
datasets to their assignments.  Here is that map with its writes, and the two ways of
looking at it that the map itself does not list: by node and by partition.

## Main definitions

* `Ledger` — the assignment of each dataset.
* `Ledger.write`, `Ledger.ofWrites` — the ledger after a write, and after a sequence of
  writes from the start.
* `Registry.Write.replace` — what a write makes of the assignment of its dataset;
  `Ledger.getElem?_write` says that it changes nothing else.
* `Ledger.ofNode` — the datasets of a node.
* `NodeAssignment.serving` — the nodes of an assignment that serve a partition.
-/

namespace PartitionRouting

open Std

/-- The assignment of every dataset that has one. -/
abbrev Ledger := ExtTreeMap String NodeAssignment

/-- What a write makes of the assignment of the dataset that it names. -/
def Registry.Write.replace : Registry.Write → Option NodeAssignment → Option NodeAssignment
  | set _ a, _ => some a
  | delete _, _ => none
  | add _ n p, a => some (amend (a.getD ∅) n (·.insert p))

namespace Ledger

/-! ### Writes -/

/-- The ledger after a write.  A write that names no dataset changes nothing. -/
def write (A : Ledger) (w : Registry.Write) : Ledger :=
  if w.dataset = "" then A
  else
    match w with
    | .set d M => A.insert d M
    | .delete d => A.erase d
    | .add d n p =>
      let a : NodeAssignment := A[d]?.getD ∅
      A.insert d (a.insert n ((a[n]?.getD ∅).insert p))

variable {A : Ledger} {d : String}

theorem write_of_dataset_eq_empty {w : Registry.Write} (h : w.dataset = "") : A.write w = A :=
  if_pos h

theorem write_set (hd : d ≠ "") (M : NodeAssignment) : A.write (.set d M) = A.insert d M :=
  if_neg hd

theorem write_delete (hd : d ≠ "") : A.write (.delete d) = A.erase d := if_neg hd

theorem write_add (hd : d ≠ "") (n : NodeId) (p : PartitionId) :
    A.write (.add d n p) = amend A d (amend · n (·.insert p)) := if_neg hd

/-- A write changes the assignment of the dataset that it names and no other. -/
theorem getElem?_write (A : Ledger) (w : Registry.Write) (d : String) :
    (A.write w)[d]? = if d = w.dataset ∧ d ≠ "" then w.replace A[d]? else A[d]? := by
  by_cases hw : w.dataset = ""
  · rw [write_of_dataset_eq_empty hw, if_neg]
    exact fun h => h.2 (h.1.trans hw)
  -- a dataset that a write names has a name, so one condition is enough
  have hd : d = w.dataset ∧ d ≠ "" ↔ d = w.dataset :=
    and_iff_left_of_imp fun h he => hw (h.symm.trans he)
  simp only [hd]
  cases w with
  | set b a =>
    have hb : b ≠ "" := hw
    rw [write_set hb]
    exact getElem?_insert_eq_ite A b d a
  | delete b =>
    have hb : b ≠ "" := hw
    rw [write_delete hb]
    exact getElem?_erase_eq_ite A b d
  | add b n p =>
    have hb : b ≠ "" := hw
    rw [write_add hb, getElem?_amend]
    refine ite_congr rfl (fun h => ?_) fun _ => rfl
    rw [h]
    rfl

/-- The ledger after a sequence of writes from the start. -/
def ofWrites (ws : List Registry.Write) : Ledger := ws.foldl write ∅

/-! ### By node and by partition -/

/-- The datasets that a node is part of, with its partitions of each. -/
def ofNode (A : Ledger) (n : NodeId) : DatasetAssignment := A.filterMap fun _ a => a[n]?

theorem getElem?_ofNode (A : Ledger) (n : NodeId) (d : String) :
    (A.ofNode n)[d]? = A[d]?.bind fun a => a[n]? := by
  simp [ofNode]

end Ledger

namespace NodeAssignment

/-- The nodes that serve a partition. -/
def serving (a : NodeAssignment) (p : PartitionId) : ExtTreeSet NodeId :=
  ExtTreeSet.ofList (a.filter fun _ ps => ps.contains p).keys

theorem mem_serving {a : NodeAssignment} {p : PartitionId} {n : NodeId} :
    n ∈ a.serving p ↔ p ∈ entryOrEmpty a n := by
  rw [serving, ExtTreeSet.mem_ofList, List.contains_iff_mem, ExtTreeMap.mem_keys,
    ExtTreeMap.mem_iff_isSome_getElem?, ExtTreeMap.getElem?_filter', entryOrEmpty]
  cases a[n]? with
  | none => simp
  | some ps => simp [Option.filter]

end NodeAssignment
end PartitionRouting
