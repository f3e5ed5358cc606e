import PartitionRouting.Proofs.Assignment.Refinement

/-!
# Setting again what was read

The views by node and by partition are patched write by write, over any history of
replacements, deletions and additions.  Still they are no more than another way of looking
at the assignments: a registry that is given the assignments of another one, read dataset
by dataset, ends up with all its views.

## Main definitions

* `Registry.copy` — sets in one registry what another one gives for some datasets.
* `Registry.refresh` — sets in a registry what it gives itself.

## Main results

* `Registry.represents_copy` — what a copy holds.
* `Registry.rebuilt_from_datasets` — **a registry is rebuilt from the assignments of its
  datasets**, and setting them again changes nothing.
-/

namespace PartitionRouting

open Std

namespace Ledger

/-- No dataset has the empty name. -/
theorem getElem?_foldl_write_empty {A : Ledger} (hA : A[""]? = none) (ws : List Registry.Write) :
    (ws.foldl write A)[""]? = none := by
  induction ws generalizing A with
  | nil => exact hA
  | cons w rest ih =>
    refine ih ?_
    rw [getElem?_write, if_neg fun h => h.2 rfl]
    exact hA

/-- Setting the assignment that a dataset has changes nothing. -/
theorem write_set_self {A : Ledger} {d : String} {a : NodeAssignment} (h : A[d]? = some a) :
    A.write (.set d a) = A := by
  refine ExtTreeMap.ext_getElem? fun b => ?_
  rw [getElem?_write]
  split
  · next hb =>
    have hbd : b = d := hb.1
    rw [hbd, h]
    rfl
  · rfl

end Ledger

namespace Registry

/-- The registry `target` once the listed datasets were set in it, one after another, to
the assignments that `source` gives for them, up to the first failure. -/
def copy (source : Registry) : List String → Registry → Attempt Registry
  | [], target => Attempt.ok target
  | d :: rest, target =>
    (source.nodeAssignment d).andThen fun a =>
      (target.setAssignment d a).andThen fun target => copy source rest target

/-- The registry once the assignments of the listed datasets were read and set again, one
after another, up to the first failure. -/
def refresh : List String → Registry → Attempt Registry
  | [], r => Attempt.ok r
  | d :: rest, r =>
    (r.nodeAssignment d).andThen fun a =>
      (r.setAssignment d a).andThen fun r => refresh rest r

variable {source target r : Registry} {A B : Ledger} {d : String} {ds : List String}

/-- What is read of a dataset can be set in any registry. -/
theorem exists_setAssignment (hsource : source.Represents A) (htarget : target.Represents B)
    (hd : d ∈ A) (hne : d ≠ "") :
    ∃ a r, A[d]? = some a ∧ (source.nodeAssignment d).value = .ok a ∧
      (target.setAssignment d a).value = .ok r ∧ r.Represents (B.write (.set d a)) := by
  obtain ⟨a, ha⟩ := mem_iff_exists_getElem?.mp hd
  have hread := value_nodeAssignment hsource d
  rw [ha] at hread
  have hset := (value_attempt target (.set d a)).trans (if_neg hne)
  exact ⟨a, _, ha, hread, hset, represents_apply htarget _⟩

/-- **A copy** holds the assignments of the listed datasets as the source has them, and the
others as the target had them. -/
theorem represents_copy (hsource : source.Represents A) (htarget : target.Represents B)
    (hds : ∀ d ∈ ds, d ∈ A ∧ d ≠ "") :
    ∃ r C, (copy source ds target).value = .ok r ∧ r.Represents C ∧
      ∀ d, C[d]? = if d ∈ ds then A[d]? else B[d]? := by
  induction ds generalizing target B with
  | nil => exact ⟨target, B, rfl, htarget, fun d => rfl⟩
  | cons d rest ih =>
    obtain ⟨hd, hne⟩ := hds d List.mem_cons_self
    have hrest : ∀ x ∈ rest, x ∈ A ∧ x ≠ "" := fun x hx => hds x (List.mem_cons_of_mem d hx)
    obtain ⟨a, t, ha, hread, hset, ht⟩ := exists_setAssignment hsource htarget hd hne
    obtain ⟨r, C, hcopy, hr, hC⟩ := ih ht hrest
    refine ⟨r, C, ?_, hr, ?_⟩
    · rw [copy, Attempt.value_andThen_of_ok hread, Attempt.value_andThen_of_ok hset]
      exact hcopy
    · intro b
      rw [hC, Ledger.getElem?_write]
      by_cases hb : b ∈ rest
      -- a dataset that is listed again is set again, to the same assignment
      · rw [if_pos hb, if_pos (List.mem_cons_of_mem d hb)]
      · by_cases hbd : b = d
        · subst hbd
          rw [if_neg hb, if_pos ⟨rfl, hne⟩, if_pos List.mem_cons_self, ha]
          rfl
        · have hother : ¬(b = (Write.set d a).dataset ∧ b ≠ "") := fun h => hbd h.1
          have hnot : b ∉ d :: rest := fun h => (List.mem_cons.mp h).elim hbd hb
          rw [if_neg hb, if_neg hother, if_neg hnot]

/-- Setting again what a registry gives leaves it as it is. -/
theorem value_refresh (hr : r.Represents A) (hds : ∀ d ∈ ds, d ∈ A ∧ d ≠ "") :
    (refresh ds r).value = .ok r := by
  induction ds with
  | nil => rfl
  | cons d rest ih =>
    obtain ⟨hd, hne⟩ := hds d List.mem_cons_self
    have hrest : ∀ x ∈ rest, x ∈ A ∧ x ≠ "" := fun x hx => hds x (List.mem_cons_of_mem d hx)
    obtain ⟨a, t, ha, hread, hset, ht⟩ := exists_setAssignment hr hr hd hne
    -- the registry that the write gives represents the same ledger
    rw [Ledger.write_set_self ha] at ht
    rw [ht.unique hr] at hset
    rw [refresh, Attempt.value_andThen_of_ok hread, Attempt.value_andThen_of_ok hset]
    exact ih hrest

/-- **A registry is rebuilt from the assignments of its datasets.**  After any sequence of
writes, the assignments that a registry gives for its datasets, set in an empty registry in
any order, make a registry that is the same in every view, and so answers every read in the
same way; setting them again in the registry itself, one after another, changes nothing. -/
theorem rebuilt_from_datasets (ws : List Write) :
    ∃ names, (applyAll ∅ ws).datasets.value = .ok names ∧
      ∀ ds : List String, (∀ d, d ∈ ds ↔ d ∈ names) →
        (copy (applyAll ∅ ws) ds ∅).value = .ok (applyAll ∅ ws) ∧
          (refresh ds (applyAll ∅ ws)).value = .ok (applyAll ∅ ws) := by
  have hr : (applyAll ∅ ws).Represents (Ledger.ofWrites ws) :=
    represents_applyAll represents_empty ws
  obtain ⟨names, hnames, -, hlisted⟩ := exists_value_datasets hr
  refine ⟨names, hnames, fun ds hds => ?_⟩
  have hmem : ∀ d, d ∈ ds ↔ d ∈ Ledger.ofWrites ws := fun d => (hds d).trans (hlisted d)
  have hnone : (Ledger.ofWrites ws)[""]? = none :=
    Ledger.getElem?_foldl_write_empty ExtTreeMap.getElem?_empty ws
  have hknown : ∀ d ∈ ds, d ∈ Ledger.ofWrites ws ∧ d ≠ "" := by
    intro d hd
    refine ⟨(hmem d).mp hd, ?_⟩
    rintro rfl
    rw [hmem, ExtTreeMap.mem_iff_isSome_getElem?, hnone] at hd
    contradiction
  constructor
  · obtain ⟨r, C, hcopy, hC, hget⟩ := represents_copy hr represents_empty hknown
    have heq : C = Ledger.ofWrites ws := by
      refine ExtTreeMap.ext_getElem? fun d => ?_
      rw [hget]
      split
      · rfl
      -- a dataset that is not listed has no assignment in either registry
      · next hd =>
        rw [hmem] at hd
        rw [ExtTreeMap.getElem?_eq_none hd, ExtTreeMap.getElem?_empty]
    rw [heq] at hC
    rw [hcopy, hC.unique hr]
  · exact value_refresh hr hknown

/-- A node without partitions, a dataset without nodes, and a node that lost its only
dataset on the way. -/
theorem rebuilt_from_datasets_of_history :
    let ws : List Write := [.add "a" 1 3, .add "b" 2 4, .set "c" ∅, .add "d" 5 1,
      .set "a" (.ofEntries [(2, [3, 4]), (3, [])]), .delete "d", .delete "b", .add "b" 2 5]
    let r := applyAll ∅ ws
    r.datasets.value = .ok ["a", "b", "c"] ∧ (copy r ["c", "a", "b"] ∅).value = .ok r ∧
      (refresh ["c", "a", "b"] r).value = .ok r := by
  intro ws r
  have hkeys : r.byDataset.keys = ["a", "b", "c"] := by decide +kernel
  have hdatasets : r.datasets.value = .ok ["a", "b", "c"] := congrArg Except.ok hkeys
  obtain ⟨names, hnames, hrebuilt⟩ := rebuilt_from_datasets ws
  obtain rfl : names = ["a", "b", "c"] := Except.ok.inj (hnames.symm.trans hdatasets)
  refine ⟨hdatasets, hrebuilt ["c", "a", "b"] fun d => ?_⟩
  simp [or_comm, or_left_comm]

end Registry
end PartitionRouting
