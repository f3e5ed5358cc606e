import Mathlib.Data.List.Forall2
import PartitionRouting.Proofs.Assignment.Replacement

/-!
# Loading assignments in any order

A registry is loaded from the assignments of several datasets, one dataset after another, one
node after another and one partition after another.  Whoever loads it visits all of them in
an order of his own.  What is loaded is the same whatever the order, and so is the failure if
a dataset has no name.

## Main definitions

* `Registry.setListed`, `setAllListed` — replaces the assignments of datasets by what a
  listing visits, in the order of the listing.

## Main results

* `foldl_insert_of_perm` — a map is rebuilt from its entries in any order.
* `Registry.exists_setAllListed` — **listings of the same assignments load the same
  registry.**
* `Registry.setAllListed_of_empty` — a dataset without a name is refused wherever it comes.
-/

namespace PartitionRouting

open Std

/-- A map is rebuilt from its entries in any order. -/
theorem foldl_insert_of_perm {α β : Type} [Ord α] [TransOrd α] [LawfulEqOrd α] [BEq α]
    [LawfulBEq α] {m : ExtTreeMap α β} {l : List (α × β)} (h : l.Perm m.toList) :
    l.foldl (fun m e => m.insert e.1 e.2) ∅ = m := by
  -- no key is listed twice, so none is overwritten
  have hdistinct : l.Pairwise fun a b => ¬compare a.1 b.1 = .eq :=
    (h.pairwise_iff fun hne heq => hne (OrientedCmp.eq_symm heq)).mpr m.distinct_keys_toList
  rw [← ExtTreeMap.ofList_eq_foldl]
  refine ExtTreeMap.ext_getElem? fun k => ?_
  cases hk : m[k]? with
  | some v =>
    have hmem : (k, v) ∈ l := h.mem_iff.mpr (ExtTreeMap.mem_toList_iff_getElem?_eq_some.mpr hk)
    exact ExtTreeMap.getElem?_ofList_of_mem compare_self hdistinct hmem
  | none =>
    refine ExtTreeMap.getElem?_ofList_of_contains_eq_false ?_
    rw [← Bool.not_eq_true, List.contains_iff_mem, List.mem_map]
    rintro ⟨⟨a, v⟩, hmem, rfl⟩
    have hv := ExtTreeMap.mem_toList_iff_getElem?_eq_some.mp (h.mem_iff.mp hmem)
    rw [hk] at hv
    contradiction

namespace Registry

/-- Replaces the assignment of a dataset by what a listing visits, in the order of the
listing. -/
def setListed (r : Registry) (e : String × List (NodeId × List PartitionId)) :
    Except RoutingError Registry :=
  if e.1 = "" then .error emptyName
  else .ok (((r.removeDataset e.1).registerDataset e.1).load e.1 e.2)

/-- Replaces the assignments of datasets in the given order, up to the first failure. -/
def setAllListed (r : Registry) (es : List (String × List (NodeId × List PartitionId))) :
    Except RoutingError Registry := es.foldlM setListed r

variable {r : Registry} {A : Ledger} {es : List (String × List (NodeId × List PartitionId))}

/-- Setting an assignment visits it in ascending order. -/
theorem value_setAssignment (r : Registry) (d : String) (a : NodeAssignment) :
    (r.setAssignment d a).value = r.setListed (d, a.entries) := value_attempt_set r d a

theorem value_setAll (r : Registry) (l : List (String × NodeAssignment)) :
    (r.setAll l).value = r.setAllListed (l.map fun e => (e.1, e.2.entries)) := by
  induction l generalizing r with
  | nil => rfl
  | cons e rest ih =>
    obtain ⟨d, a⟩ := e
    rw [setAll, Attempt.value_andThen, List.map_cons, setAllListed, List.foldlM_cons,
      value_setAssignment]
    cases r.setListed (d, a.entries) with
    | error cause => rfl
    | ok r' => exact ih r'

/-- What a listing visits is set, in whatever order it does. -/
theorem setListed_of_listedBy (hr : r.Represents A) {d : String} (hd : d ≠ "")
    {M : NodeAssignment} {ns : List (NodeId × List PartitionId)} (hns : M.ListedBy ns) :
    ∃ r', r.setListed (d, ns) = .ok r' ∧ r'.Represents (A.insert d M) := by
  refine ⟨r.apply (.set d M), ?_, ?_⟩
  · rw [setListed, if_neg hd, load_eq_apply_set hr hd hns]
  · have hset := represents_apply hr (.set d M)
    rwa [Ledger.write_set hd] at hset

/-- **Listings of the same assignments load the same registry**: the one that represents
them. -/
theorem exists_setAllListed (hr : r.Represents A) {order : List (String × NodeAssignment)}
    (hes : List.Forall₂ (fun e x => e.1 = x.1 ∧ x.2.ListedBy e.2) es order)
    (hnames : ∀ x ∈ order, x.1 ≠ "") :
    ∃ r', r.setAllListed es = .ok r' ∧
      r'.Represents (order.foldl (fun A x => A.insert x.1 x.2) A) := by
  induction hes generalizing r A with
  | nil => exact ⟨r, rfl, hr⟩
  | @cons e x es order he _ ih =>
    obtain ⟨d, ns⟩ := e
    obtain ⟨hname, hlisted⟩ := he
    obtain rfl : d = x.1 := hname
    obtain ⟨r₁, hfirst, hr₁⟩ := setListed_of_listedBy hr (hnames x List.mem_cons_self) hlisted
    obtain ⟨r', hrest, hr'⟩ := ih hr₁ fun y hy => hnames y (List.mem_cons_of_mem x hy)
    refine ⟨r', ?_, hr'⟩
    rw [setAllListed, List.foldlM_cons, hfirst]
    exact hrest

/-- A dataset without a name is refused wherever it comes. -/
theorem setAllListed_of_empty (r : Registry) (h : ∃ e ∈ es, e.1 = "") :
    r.setAllListed es = .error emptyName := by
  induction es generalizing r with
  | nil => simp at h
  | cons e rest ih =>
    rw [setAllListed, List.foldlM_cons]
    by_cases he : e.1 = ""
    · rw [setListed, if_pos he]
      rfl
    · obtain ⟨x, hx, hname⟩ := h
      have hrest : x ∈ rest := (List.mem_cons.mp hx).resolve_left fun hxe => he (hxe ▸ hname)
      rw [setListed, if_neg he]
      exact ih _ ⟨x, hrest, hname⟩

end Registry
end PartitionRouting
