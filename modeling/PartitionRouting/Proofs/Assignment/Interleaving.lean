import PartitionRouting.Proofs.Assignment.Refinement

/-!
# Writes that do not interfere

Two writers that name different datasets meet in the view by node, where one of them may
take out the entry of a node that the other adds to.  Nevertheless the writes may be
interleaved in any way: a write changes the ledger at the dataset that it names alone, so
writes of different datasets commute, and the ledger determines all views.  Additions
commute even if they name the same dataset, and one that is repeated adds nothing.

## Main definitions

* `Interleaved us vs ws` — `ws` holds the elements of `us` and those of `vs`, and keeps the
  order of both.

## Main results

* `foldl_of_interleaved`, `foldl_of_mem_iff` — when the order of steps, and when their
  repetition, makes no difference.
* `Ledger.write_comm`, `write_add_comm`, `write_add_self` — which writes commute, and which
  may be repeated.
* `Registry.writers_independent` — **the order in which writers of different datasets get
  their turns makes no difference**, and neither do the order and the repetitions of
  additions.
-/

namespace PartitionRouting

open Std

/-! ### Sequences of steps -/

/-- `Interleaved us vs ws` says that `ws` holds the elements of `us` and those of `vs`, and
that it keeps the order of both. -/
inductive Interleaved {α : Type} : List α → List α → List α → Prop
  /-- Both lists are at their ends. -/
  | nil : Interleaved [] [] []
  /-- The first element comes from the left list. -/
  | left {us vs ws : List α} (u : α) (h : Interleaved us vs ws) :
    Interleaved (u :: us) vs (u :: ws)
  /-- The first element comes from the right list. -/
  | right {us vs ws : List α} (v : α) (h : Interleaved us vs ws) :
    Interleaved us (v :: vs) (v :: ws)

theorem Interleaved.swap {α : Type} {us vs ws : List α} (h : Interleaved us vs ws) :
    Interleaved vs us ws := by
  induction h with
  | nil => exact .nil
  | left u _ ih => exact .right u ih
  | right v _ ih => exact .left v ih

section Fold

variable {α β : Type} {f : β → α → β}

/-- A step that commutes with others may be taken after them. -/
theorem foldl_step {us : List α} {v : α} (hcomm : ∀ u ∈ us, ∀ b, f (f b v) u = f (f b u) v)
    (b : β) : us.foldl f (f b v) = f (us.foldl f b) v := by
  induction us generalizing b with
  | nil => rfl
  | cons u rest ih =>
    have hrest : ∀ x ∈ rest, ∀ b, f (f b v) x = f (f b x) v := by
      intro x hx
      exact hcomm x (List.mem_cons_of_mem u hx)
    rw [List.foldl_cons, List.foldl_cons, hcomm u List.mem_cons_self]
    exact ih hrest (f b u)

/-- If the steps of two sequences commute, any interleaving of them leads where the one
followed by the other does. -/
theorem foldl_of_interleaved {us vs ws : List α} (h : Interleaved us vs ws)
    (hcomm : ∀ u ∈ us, ∀ v ∈ vs, ∀ b, f (f b v) u = f (f b u) v) (b : β) :
    ws.foldl f b = (us ++ vs).foldl f b := by
  induction h generalizing b with
  | nil => rfl
  | left u _ ih =>
    refine ih ?_ (f b u)
    intro x hx
    exact hcomm x (List.mem_cons_of_mem u hx)
  | @right us vs ws v _ ih =>
    have hrest : ∀ u ∈ us, ∀ x ∈ vs, ∀ b, f (f b x) u = f (f b u) x := by
      intro u hu x hx
      exact hcomm u hu x (List.mem_cons_of_mem v hx)
    have hv : ∀ u ∈ us, ∀ b, f (f b v) u = f (f b u) v := by
      intro u hu
      exact hcomm u hu v List.mem_cons_self
    -- the step from the right has to pass all steps from the left
    calc (v :: ws).foldl f b
      _ = (us ++ vs).foldl f (f b v) := ih hrest (f b v)
      _ = vs.foldl f (us.foldl f (f b v)) := List.foldl_append
      _ = vs.foldl f (f (us.foldl f b) v) := by rw [foldl_step hv]
      _ = (us ++ v :: vs).foldl f b := by rw [List.foldl_append, List.foldl_cons]

theorem step_foldl_of_mem {xs : List α} {x : α}
    (hcomm : ∀ b x y, f (f b x) y = f (f b y) x) (hself : ∀ b x, f (f b x) x = f b x)
    (hx : x ∈ xs) (b : β) : f (xs.foldl f b) x = xs.foldl f b := by
  induction xs generalizing b with
  | nil => contradiction
  | cons y rest ih =>
    rcases List.mem_cons.mp hx with rfl | hx
    -- the step is brought back to where it was taken first
    · have hpass : rest.foldl f (f (f b x) x) = f (rest.foldl f (f b x)) x := by
        apply foldl_step
        intro u _ b
        exact hcomm b x u
      rw [List.foldl_cons, ← hpass, hself]
    · exact ih hx (f b y)

/-- Steps that were all taken before change nothing. -/
theorem foldl_append_of_subset {xs ys : List α}
    (hcomm : ∀ b x y, f (f b x) y = f (f b y) x) (hself : ∀ b x, f (f b x) x = f b x)
    (hsub : ys ⊆ xs) (b : β) : (xs ++ ys).foldl f b = xs.foldl f b := by
  rw [List.foldl_append]
  induction ys with
  | nil => rfl
  | cons y rest ih =>
    obtain ⟨hy, hrest⟩ := List.cons_subset.mp hsub
    rw [List.foldl_cons, step_foldl_of_mem hcomm hself hy]
    exact ih hrest

/-- If all steps commute and none need be repeated, it only matters which steps are
taken. -/
theorem foldl_of_mem_iff {xs ys : List α}
    (hcomm : ∀ b x y, f (f b x) y = f (f b y) x) (hself : ∀ b x, f (f b x) x = f b x)
    (h : ∀ x, x ∈ xs ↔ x ∈ ys) (b : β) : xs.foldl f b = ys.foldl f b := by
  have hxs : xs ⊆ ys := fun x hx => (h x).mp hx
  have hys : ys ⊆ xs := fun x hx => (h x).mpr hx
  calc xs.foldl f b
    _ = (xs ++ ys).foldl f b := (foldl_append_of_subset hcomm hself hys b).symm
    _ = (ys ++ xs).foldl f b :=
      List.perm_append_comm.foldl_eq' (fun x _ y _ b => hcomm b x y) b
    _ = ys.foldl f b := foldl_append_of_subset hcomm hself hxs b

end Fold

/-! ### Writes that commute -/

namespace Ledger

variable {u v : Registry.Write}

/-- Writes of different datasets commute, and one that names none with any other. -/
theorem write_comm (h : u.dataset = v.dataset → u.dataset = "") (A : Ledger) :
    (A.write u).write v = (A.write v).write u := by
  refine ExtTreeMap.ext_getElem? fun d => ?_
  simp only [getElem?_write]
  by_cases hu : d = u.dataset ∧ d ≠ ""
  · have hv : ¬(d = v.dataset ∧ d ≠ "") := by
      intro hv
      have hname : u.dataset = "" := h (hu.1.symm.trans hv.1)
      exact hu.2 (hu.1.trans hname)
    rw [if_neg hv, if_neg hv, if_pos hu]
  · rw [if_neg hu, if_neg hu]

theorem amend_insert_comm (a : NodeAssignment) (n m : NodeId) (p q : PartitionId) :
    amend (amend a n (·.insert p)) m (·.insert q) =
      amend (amend a m (·.insert q)) n (·.insert p) := by
  refine NodeAssignment.ext_entryOrEmpty (fun k => ?_) fun k x => ?_
  · simp only [NodeAssignment.mem_amend]
    exact or_left_comm
  · simp only [NodeAssignment.mem_entryOrEmpty_amend_insert]
    exact or_left_comm

theorem amend_insert_self (a : NodeAssignment) (n : NodeId) (p : PartitionId) :
    amend (amend a n (·.insert p)) n (·.insert p) = amend a n (·.insert p) := by
  refine NodeAssignment.ext_entryOrEmpty (fun k => ?_) fun k x => ?_
  · simp only [NodeAssignment.mem_amend, or_self_left]
  · simp only [NodeAssignment.mem_entryOrEmpty_amend_insert, or_self_left]

/-- Two writes of the same dataset change its assignment one after the other. -/
theorem getElem?_write_write (h : u.dataset = v.dataset) (A : Ledger) (d : String) :
    ((A.write u).write v)[d]? =
      if d = v.dataset ∧ d ≠ "" then v.replace (u.replace A[d]?) else A[d]? := by
  rw [getElem?_write, getElem?_write, h]
  by_cases hd : d = v.dataset ∧ d ≠ ""
  · rw [if_pos hd, if_pos hd, if_pos hd]
  · rw [if_neg hd, if_neg hd, if_neg hd]

/-- Additions commute, of the same dataset or not. -/
theorem write_add_comm (A : Ledger) (d e : String) (n m : NodeId) (p q : PartitionId) :
    (A.write (.add d n p)).write (.add e m q) = (A.write (.add e m q)).write (.add d n p) := by
  by_cases h : d = e
  · subst h
    have hsame : (Registry.Write.add d n p).dataset = (Registry.Write.add d m q).dataset := rfl
    have hreplace : ∀ a, (Registry.Write.add d m q).replace ((Registry.Write.add d n p).replace a) =
        (Registry.Write.add d n p).replace ((Registry.Write.add d m q).replace a) := by
      intro a
      exact congrArg some (amend_insert_comm (a.getD ∅) n m p q)
    refine ExtTreeMap.ext_getElem? fun b => ?_
    rw [getElem?_write_write hsame, getElem?_write_write hsame.symm, hreplace]
    rfl
  · have hother : (Registry.Write.add d n p).dataset ≠ (Registry.Write.add e m q).dataset := h
    exact write_comm (fun hsame => absurd hsame hother) A

/-- An addition that is repeated adds nothing. -/
theorem write_add_self (A : Ledger) (d : String) (n : NodeId) (p : PartitionId) :
    (A.write (.add d n p)).write (.add d n p) = A.write (.add d n p) := by
  have hreplace : ∀ a, (Registry.Write.add d n p).replace ((Registry.Write.add d n p).replace a) =
      (Registry.Write.add d n p).replace a := by
    intro a
    exact congrArg some (amend_insert_self (a.getD ∅) n p)
  refine ExtTreeMap.ext_getElem? fun b => ?_
  rw [getElem?_write_write rfl, getElem?_write, hreplace]

end Ledger

/-! ### Writers -/

namespace Registry

/-- Sequences of writes that take the ledger to the same place do so with the registry. -/
theorem applyAll_congr {r : Registry} {A : Ledger} (h : r.Represents A) {ws ws' : List Write}
    (hw : ws.foldl Ledger.write A = ws'.foldl Ledger.write A) :
    r.applyAll ws = r.applyAll ws' := by
  have hws := represents_applyAll h ws
  rw [hw] at hws
  exact hws.unique (represents_applyAll h ws')

/-- The addition of one partition of a node of a dataset. -/
def addition (t : String × NodeId × PartitionId) : Write := .add t.1 t.2.1 t.2.2

/-- **Writers do not interfere.**  Two sequences of writes that share no dataset, writes
that name none among them, lead any registry that can be reached to the same state in
whatever way they are interleaved: to the one that either sequence followed by the other
leads to, so that no read can tell.  Of a sequence of additions it matters only what is
added: neither their order nor their repetitions make a difference. -/
theorem writers_independent (ws : List Write) :
    (∀ {us vs zs : List Write},
      (∀ u ∈ us, ∀ v ∈ vs, u.dataset = v.dataset → u.dataset = "") → Interleaved us vs zs →
        (applyAll ∅ ws).applyAll zs = (applyAll ∅ ws).applyAll (us ++ vs) ∧
          (applyAll ∅ ws).applyAll zs = (applyAll ∅ ws).applyAll (vs ++ us)) ∧
      ∀ {ts ts' : List (String × NodeId × PartitionId)}, (∀ t, t ∈ ts ↔ t ∈ ts') →
        (applyAll ∅ ws).applyAll (ts.map addition) =
          (applyAll ∅ ws).applyAll (ts'.map addition) := by
  have hr := represents_applyAll represents_empty ws
  constructor
  · intro us vs zs hdisjoint hzs
    have hcomm : ∀ u ∈ us, ∀ v ∈ vs, ∀ A : Ledger,
        (A.write u).write v = (A.write v).write u := by
      intro u hu v hv
      exact Ledger.write_comm (hdisjoint u hu v hv)
    constructor
    -- the ledger determines the registry, so it is enough to compare ledgers
    · apply applyAll_congr hr
      exact foldl_of_interleaved hzs (fun u hu v hv A => (hcomm u hu v hv A).symm) _
    · apply applyAll_congr hr
      exact foldl_of_interleaved hzs.swap (fun v hv u hu A => hcomm u hu v hv A) _
  · intro ts ts' hmem
    apply applyAll_congr hr
    rw [List.foldl_map, List.foldl_map]
    refine foldl_of_mem_iff ?_ ?_ hmem _
    · intro A t t'
      exact A.write_add_comm _ _ _ _ _ _
    · intro A t
      exact A.write_add_self _ _ _

/-- One writer takes out the only dataset of a node while the other gives the node a new
one; among the writes are some that name no dataset. -/
theorem writers_independent_of_shared_node :
    let ws : List Write := [.add "a" 1 3, .add "b" 1 3]
    let us : List Write := [.delete "a", .add "" 2 4, .add "a" 2 3]
    let vs : List Write := [.delete "b", .set "b" (.ofEntries [(1, [7]), (2, [])]), .delete ""]
    let zs : List Write := [.delete "b", .delete "a", .set "b" (.ofEntries [(1, [7]), (2, [])]),
      .delete "", .add "" 2 4, .add "a" 2 3]
    let ts : List (String × NodeId × PartitionId) := [("a", 1, 3), ("b", 1, 4), ("a", 1, 3)]
    let ts' : List (String × NodeId × PartitionId) := [("b", 1, 4), ("a", 1, 3)]
    (applyAll ∅ ws).applyAll zs = (applyAll ∅ ws).applyAll (us ++ vs) ∧
      (applyAll ∅ ws).applyAll zs = (applyAll ∅ ws).applyAll (vs ++ us) ∧
      (applyAll ∅ ws).applyAll (ts.map addition) =
        (applyAll ∅ ws).applyAll (ts'.map addition) := by
  intro ws us vs zs ts ts'
  obtain ⟨hwriters, hadditions⟩ := writers_independent ws
  have hdisjoint : ∀ u ∈ us, ∀ v ∈ vs, u.dataset = v.dataset → u.dataset = "" := by decide
  have hzs : Interleaved us vs zs :=
    .right _ (.left _ (.right _ (.right _ (.left _ (.left _ .nil)))))
  have hmem : ∀ t, t ∈ ts ↔ t ∈ ts' := by
    intro t
    simp [ts, ts', or_comm]
  obtain ⟨hleft, hright⟩ := hwriters hdisjoint hzs
  exact ⟨hleft, hright, hadditions hmem⟩

end Registry
end PartitionRouting
