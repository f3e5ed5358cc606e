import Mathlib.Data.List.Basic
import PartitionRouting.Proofs.Store.Candidates
import PartitionRouting.Proofs.Text.Quotation

/-!
# Versions of stores are kept apart

Each version of each store is a dataset of its own.  A store may have any name, also one
that looks like the name of a dataset, so that one name may be the beginning of another in
several ways.  The number of the version is still what follows the last `v`, because decimal
digits hold none, and the store is what precedes the separator.  So a name of a dataset
belongs to one version of one store, and requests for different versions or to different
stores read different datasets of a registry that they share.

## Main results

* `append_cons_inj` — the last occurrence of a separator splits a list in one way.
* `datasetName_inj` — a name of a dataset determines the store and the version.
* `Registry.nodesForPartition_applyAll` — a lookup reads the dataset that it names alone.
* `Store.datasets_apart` — **different versions and different stores never share a dataset**,
  and what is written to one is not seen through another.
-/

namespace PartitionRouting

/-! ### Names -/

/-- The last occurrence of a separator splits a list in one way. -/
theorem append_cons_inj {α : Type*} {a : α} {l l' r r' : List α} (hr : a ∉ r) (hr' : a ∉ r')
    (h : l ++ a :: r = l' ++ a :: r') : l = l' ∧ r = r' := by
  rcases List.append_eq_append_iff.mp h with ⟨m, hl, hm⟩ | ⟨m, hl, hm⟩
  -- a separator in between would be in one of the ends
  · cases m with
    | nil => exact ⟨by simpa using hl.symm, (List.cons.inj hm).2⟩
    | cons b m =>
      have hmem : a ∈ r := (List.cons.inj hm).2 ▸ List.mem_append_right m List.mem_cons_self
      exact absurd hmem hr
  · cases m with
    | nil => exact ⟨by simpa using hl, (List.cons.inj hm).2.symm⟩
    | cons b m =>
      have hmem : a ∈ r' := (List.cons.inj hm).2 ▸ List.mem_append_right m List.mem_cons_self
      exact absurd hmem hr'

theorem v_notMem_toDigits (n : ℕ) : 'v' ∉ Nat.toDigits 10 n := fun h =>
  absurd (Nat.isDigit_of_mem_toDigits (by decide) (by decide) h) (by decide)

theorem toList_datasetName (store : String) (version : UInt32) :
    (datasetName store version).toList =
      store.toList ++ ['_'] ++ 'v' :: Nat.toDigits 10 version.toNat := by
  simp [datasetName]

theorem datasetName_ne_empty (store : String) (version : UInt32) :
    datasetName store version ≠ "" := fun h => by
  have hchars := toList_datasetName store version
  rw [h] at hchars
  simp at hchars

/-- **A name of a dataset determines the store and the version.** -/
theorem datasetName_inj {store store' : String} {version version' : UInt32} :
    datasetName store version = datasetName store' version' ↔
      store = store' ∧ version = version' := by
  constructor
  · intro h
    have hchars := congrArg String.toList h
    rw [toList_datasetName, toList_datasetName] at hchars
    obtain ⟨hstore, hdigits⟩ :=
      append_cons_inj (v_notMem_toDigits _) (v_notMem_toDigits _) hchars
    exact ⟨String.toList_injective (List.append_cancel_right hstore),
      UInt32.toNat_inj.mp (toDigits_injective_of_le (by decide) (by decide) hdigits)⟩
  · rintro ⟨rfl, rfl⟩
    rfl

/-! ### Reads -/

/-- **A lookup reads the dataset that it names alone**: after writes of others it finds what
it found before, and reports the same. -/
theorem Registry.nodesForPartition_applyAll {r : Registry} {A : Ledger} (hr : r.Represents A)
    {ws : List Registry.Write} {d : String} (hws : ∀ w ∈ ws, w.dataset ≠ d) (p : PartitionId) :
    (r.applyAll ws).nodesForPartition d p = r.nodesForPartition d p := by
  have hnone : ws.filter (·.dataset == d) = [] :=
    List.filter_eq_nil_iff.mpr fun w hw => by simpa using hws w hw
  have hsame : (ws.foldl Ledger.write A)[d]? = A[d]? := by
    rw [Ledger.getElem?_foldl_write_eq, hnone, List.foldl_nil]
  rw [nodesForPartition_eq (represents_applyAll hr ws), nodesForPartition_eq hr, hsame]

namespace Store

/-- A store whose assignments are in another registry. -/
def withRegistry (s : Store) (registry : Registry) : Store := { s with registry }

/-- The candidates of a request are looked up in the dataset of its version alone. -/
theorem candidates_withRegistry (s : Store) {r : Registry} {A : Ledger} (hr : r.Represents A)
    {version : UInt32} (hv : version ≠ 0) {ws : List Registry.Write}
    (hws : ∀ w ∈ ws, w.dataset ≠ datasetName s.datasets version) (partition : PartitionId) :
    (s.withRegistry (r.applyAll ws)).candidates version partition =
      (s.withRegistry r).candidates version partition := by
  show PartitionRouting.candidates s.datasets (r.applyAll ws) s.book version partition =
    PartitionRouting.candidates s.datasets r s.book version partition
  rw [candidates_of_version _ _ hv rfl, candidates_of_version _ _ hv rfl,
    Registry.nodesForPartition_applyAll hr hws]

/-- A choice among candidates does not look at the registry. -/
theorem choose_withRegistry (s : Store) (registry : Registry) (requestId : UInt64)
    (version : UInt32) (partition : PartitionId) (count : ℕ) (cs : List Endpoint) :
    (s.withRegistry registry).choose requestId version partition count cs =
      (fun x => (x.1, x.2.withRegistry registry)) <$>
        s.choose requestId version partition count cs := by
  refine Logged.ext ?_ ?_
  · rw [Logged.value_map, value_choose, value_choose]
    rfl
  · rw [Logged.events_map]
    unfold choose
    dsimp only [withRegistry]
    split <;> rfl

/-- With the same candidates a request is given the same replicas, in whatever registry they
were found. -/
theorem replicas_withRegistry (s : Store) {registry : Registry} {version : UInt32}
    {partition : PartitionId}
    (h : (s.withRegistry registry).candidates version partition = s.candidates version partition)
    (requestId : UInt64) (count : ℕ) :
    (s.withRegistry registry).replicas requestId version partition count =
      (fun x => (x.1, x.2.withRegistry registry)) <$>
        s.replicas requestId version partition count := by
  rw [replicas, replicas, h, map_bind]
  refine Logged.bind_congr_value ?_
  cases (s.candidates version partition).value with
  | error cause => rfl
  | ok cs =>
    dsimp only
    rw [choose_withRegistry, bind_map_left, map_bind]
    rfl

/-- **Different versions and different stores never share a dataset.**  Every version of
every store has a dataset, whose name is not empty, so that every write to it succeeds.  Two
of these names are the same only if both the stores and the versions are, whatever the stores
are called.  And a request reads the dataset of its version alone: writes of other datasets,
such as those of other versions and of other stores, change neither its candidates nor its
replicas nor what is reported, nor what it leaves behind but for the registry itself. -/
theorem datasets_apart {store store' : String} {version version' : UInt32}
    (hv : version ≠ 0) (hv' : version' ≠ 0) :
    ∃ d d' : String, datasetForVersion store version = .ok d ∧
      datasetForVersion store' version' = .ok d' ∧
      (d = d' ↔ store = store' ∧ version = version') ∧
      d ≠ "" ∧
      (∀ (r : Registry) (w : Registry.Write), w.dataset = d →
        (r.attempt w).value = .ok (r.apply w)) ∧
      ∀ (s : Store) (before ws : List Registry.Write), s.datasets = store →
        (∀ w ∈ ws, w.dataset ≠ d) →
        ∀ (requestId : UInt64) (partition : PartitionId) (count : ℕ),
          let r := Registry.applyAll ∅ before
          let r' := r.applyAll ws
          (s.withRegistry r').candidates version partition =
              (s.withRegistry r).candidates version partition ∧
          (s.withRegistry r').replicas requestId version partition count =
            (fun x => (x.1, x.2.withRegistry r')) <$>
              (s.withRegistry r).replicas requestId version partition count := by
  have hd : datasetName store version ≠ "" := datasetName_ne_empty store version
  refine ⟨datasetName store version, datasetName store' version', if_neg hv, if_neg hv',
    datasetName_inj, hd, ?_, ?_⟩
  · intro r w hw
    rw [Registry.value_attempt, hw, if_neg hd]
  · rintro s before ws rfl hws requestId partition count r r'
    have hr := Registry.represents_applyAll Registry.represents_empty before
    -- the registry enters through the candidates alone
    have hsame := s.candidates_withRegistry hr hv hws partition
    exact ⟨hsame, (s.withRegistry r).replicas_withRegistry hsame requestId count⟩

/-- A store that is called like a dataset of another one, in a registry that both share. -/
theorem datasets_apart_of_nested_name :
    let s : Store :=
      { name := "a", datasets := "a", registry := ∅, book := .ofPairs [(1, "x"), (2, "y")]
        selector := ⟨.roundRobin, 0⟩, simulation := .fresh {} {} .discarding }
    let r := Registry.applyAll ∅ [.add "a_v1" 1 7]
    let r' := r.applyAll [.add "a_v1_v1" 2 7, .delete "a_v1_v1", .add "a_v12" 2 7]
    datasetForVersion "a_v1" 1 = .ok "a_v1_v1" ∧ datasetForVersion "a" 1 = .ok "a_v1" ∧
      "a_v1_v1" ≠ "a_v1" ∧
      ((s.withRegistry r).replicas 0 1 7 2).value.1 = .ok ["x"] ∧
      ((s.withRegistry r').replicas 0 1 7 2).value.1 = .ok ["x"] := by
  intro s r r'
  obtain ⟨d, d', hd, hd', hne, -, -, hframe⟩ :=
    @datasets_apart "a" "a_v1" 1 1 (by decide) (by decide)
  have hname : datasetForVersion "a" 1 = .ok "a_v1" := by decide +kernel
  have hname' : datasetForVersion "a_v1" 1 = .ok "a_v1_v1" := by decide +kernel
  obtain rfl : d = "a_v1" := by simpa [Attempt.ok] using hd.symm.trans hname
  obtain rfl : d' = "a_v1_v1" := by simpa [Attempt.ok] using hd'.symm.trans hname'
  have hasked : ((s.withRegistry r).replicas 0 1 7 2).value.1 = .ok ["x"] := by decide +kernel
  obtain ⟨-, hreplicas⟩ := hframe s [.add "a_v1" 1 7]
    [.add "a_v1_v1" 2 7, .delete "a_v1_v1", .add "a_v12" 2 7] rfl (by decide +kernel) 0 7 2
  refine ⟨hname', hname, fun h => ?_, hasked, ?_⟩
  · exact absurd (hne.mp h.symm).1 (by decide)
  · rw [hreplicas, Logged.value_map]
    exact hasked

end Store
end PartitionRouting
