import Mathlib.Data.List.Sort
import Mathlib.Data.Prod.Lex
import Mathlib.Data.Set.Card
import PartitionRouting.Proofs.Text.Octets
import PartitionRouting.Selection.Ranking

/-!
# Selection by load

The least loaded strategy ranks the available candidates by load, by digest and by name.  As
names differ, no two candidates have the same standing, so there is one list of the available
candidates in ascending order, whatever the digests are and in whatever order, and however
often, the candidates are given.  The ranking is this list and a selection its beginning.

## Main definitions

* `standing` — what a candidate is ranked by, as an element of a lexicographic product.
* `Ranks` — a list holds the available candidates in ascending order.

## Main results

* `RankKey.before_iff` — the comparison of keys is the lexicographic order.
* `ranks_ranking`, `Ranks.unique` — the ranking is the one list that ranks the candidates.
* `best_selected` — **a selection is the beginning of this list**, so it holds the best
  candidates and depends on their set alone.
-/

namespace PartitionRouting

/-! ### Standings -/

/-- **What a candidate is ranked by for a request**: its load, then the digest, then the
octets of its name. -/
def standing (signal : HealthSignal) (requestId : UInt64) (e : Endpoint) : ℕ ×ₗ ℕ ×ₗ List ℕ :=
  toLex (signal.pending e, toLex (requestDigest requestId e, octets e))

namespace RankKey

/-- What a key is compared by, as an element of a lexicographic product. -/
def standing (x : RankKey) : ℕ ×ₗ ℕ ×ₗ List ℕ :=
  toLex (x.pending, toLex (x.digest, octets x.endpoint))

theorem before_iff {x y : RankKey} : x.before y ↔ x.standing < y.standing := by
  simp only [before, standing, Prod.Lex.toLex_lt_toLex, octets_lt_iff, Bool.or_eq_true,
    Bool.and_eq_true, decide_eq_true_eq]

theorem notAfter_iff {x y : RankKey} : x.notAfter y ↔ x.standing ≤ y.standing := by
  rw [notAfter, Bool.not_eq_true', ← Bool.not_eq_true, before_iff, not_lt]

end RankKey

theorem standing_rankKey (signal : HealthSignal) (requestId : UInt64) (e : Endpoint) :
    (rankKey signal requestId e).standing = standing signal requestId e := rfl

variable {signal : HealthSignal} {requestId : UInt64} {cs cs' l l' : List Endpoint}
  {x y e : Endpoint} {count : ℕ}

/-- Names differ, so standings do, whatever the digests. -/
theorem standing_injective (signal : HealthSignal) (requestId : UInt64) :
    Function.Injective (standing signal requestId) := by
  intro x y h
  have hkeys := toLex.injective h
  have hnames := toLex.injective (congrArg Prod.snd hkeys)
  exact octets_injective (congrArg Prod.snd hnames)

theorem pending_le_of_standing_lt (h : standing signal requestId x < standing signal requestId y) :
    signal.pending x ≤ signal.pending y := Prod.Lex.monotone_fst _ _ h.le

/-! ### Rankings -/

/-- Lists in ascending order of some key are the same if they hold the same. -/
theorem eq_of_ascending {α β : Type*} [Preorder β] {f : α → β} {l l' : List α}
    (hl : l.Pairwise (f · < f ·)) (hl' : l'.Pairwise (f · < f ·)) (h : ∀ x, x ∈ l ↔ x ∈ l') :
    l = l' := by
  have hperm : l.Perm l' := (List.perm_ext_iff_of_nodup
    (hl.imp fun hlt heq => hlt.ne (congrArg f heq))
    (hl'.imp fun hlt heq => hlt.ne (congrArg f heq))).mpr h
  exact hperm.eq_of_pairwise (fun _ _ _ _ hlt hgt => absurd hgt hlt.asymm) hl hl'

/-- The keys serve to compare the candidates only. -/
theorem ranking_eq_mergeSort (signal : HealthSignal) (requestId : UInt64) (cs : List Endpoint) :
    ranking signal requestId cs =
      (availableCandidates signal cs).mergeSort
        (standing signal requestId · ≤ standing signal requestId ·) := by
  have hsort := List.map_mergeSort (f := rankKey signal requestId)
    (r := (standing signal requestId · ≤ standing signal requestId ·)) (s := RankKey.notAfter)
    (l := availableCandidates signal cs)
    fun x _ y _ => by
      rw [Bool.eq_iff_iff, RankKey.notAfter_iff, decide_eq_true_eq, standing_rankKey,
        standing_rankKey]
  rw [ranking, ← hsort, List.map_map]
  exact List.map_id _

/-- **`l` ranks the candidates of a request**: it holds those that are available, in ascending
order. -/
structure Ranks (signal : HealthSignal) (requestId : UInt64) (cs l : List Endpoint) : Prop where
  /-- The available candidates are listed. -/
  mem_iff : ∀ e, e ∈ l ↔ e ∈ cs ∧ signal.available e
  /-- Each has a higher standing than those before it. -/
  ascending : l.Pairwise (standing signal requestId · < standing signal requestId ·)

theorem Ranks.nodup (hl : Ranks signal requestId cs l) : l.Nodup :=
  hl.ascending.imp fun hlt heq => hlt.ne (congrArg _ heq)

theorem ranks_ranking (signal : HealthSignal) (requestId : UInt64) (cs : List Endpoint) :
    Ranks signal requestId cs (ranking signal requestId cs) where
  mem_iff e := by rw [(perm_ranking signal requestId cs).mem_iff, mem_availableCandidates]
  ascending := by
    have hnodup : (ranking signal requestId cs).Nodup :=
      (perm_ranking signal requestId cs).nodup_iff.mpr (nodup_availableCandidates signal cs)
    have htrans : ∀ x y z : Endpoint,
        decide (standing signal requestId x ≤ standing signal requestId y) = true →
        decide (standing signal requestId y ≤ standing signal requestId z) = true →
        decide (standing signal requestId x ≤ standing signal requestId z) = true := by
      intro x y z hxy hyz
      exact decide_eq_true ((of_decide_eq_true hxy).trans (of_decide_eq_true hyz))
    have htotal : ∀ x y : Endpoint,
        (decide (standing signal requestId x ≤ standing signal requestId y) ||
          decide (standing signal requestId y ≤ standing signal requestId x)) = true := by
      intro x y
      simpa using le_total (standing signal requestId x) (standing signal requestId y)
    have hsorted := List.pairwise_mergeSort htrans htotal (availableCandidates signal cs)
    rw [← ranking_eq_mergeSort] at hsorted
    -- no two instances have the same standing, so the order is strict
    refine hsorted.imp₂ (fun x y hle hne => ?_) hnodup
    exact (of_decide_eq_true hle).lt_of_ne ((standing_injective signal requestId).ne hne)

/-- No other list ranks the candidates. -/
theorem Ranks.unique (hl : Ranks signal requestId cs l) (hl' : Ranks signal requestId cs l') :
    l = l' :=
  eq_of_ascending hl.ascending hl'.ascending fun e => (hl.mem_iff e).trans (hl'.mem_iff e).symm

theorem Ranks.congr (hl : Ranks signal requestId cs l) (h : ∀ e, e ∈ cs' ↔ e ∈ cs) :
    Ranks signal requestId cs' l :=
  ⟨fun e => by rw [hl.mem_iff, h], hl.ascending⟩

theorem Ranks.length_eq (hl : Ranks signal requestId cs l) :
    l.length = {e | e ∈ cs ∧ signal.available e}.ncard := by
  have hset : {e | e ∈ cs ∧ signal.available e} = l.toFinset := by
    rw [List.coe_toFinset]
    exact Set.ext fun e => (hl.mem_iff e).symm
  rw [hset, Set.ncard_coe_finset, List.toFinset_card_of_nodup hl.nodup]

/-- What is left out of the beginning of a ranking comes after all that is in it. -/
theorem Ranks.lt_of_mem_take (hl : Ranks signal requestId cs l) (hx : x ∈ l.take count)
    (hy : y ∈ l) (hy' : y ∉ l.take count) :
    standing signal requestId x < standing signal requestId y := by
  have hdrop : y ∈ l.drop count := by
    rw [← List.take_append_drop count l] at hy
    exact (List.mem_append.mp hy).resolve_left hy'
  have hascending := hl.ascending
  rw [← List.take_append_drop count l] at hascending
  exact (List.pairwise_append.mp hascending).2.2 x hx y hdrop

/-! ### Selections -/

/-- **A selection by load is exact.**  There is one list of the available candidates in
ascending order, and the selection is its beginning, as long as asked for.  So no candidate
that is left out is better than one that is selected, and candidates that are given in another
order, or several times, make no difference. -/
theorem best_selected (signal : HealthSignal) (requestId : UInt64) (cs : List Endpoint)
    (count : ℕ) :
    let selected := selectLeastLoaded signal requestId cs count
    (∃ l, Ranks signal requestId cs l ∧ (∀ l', Ranks signal requestId cs l' → l' = l) ∧
      selected = l.take count) ∧
    selected.length = min count {e | e ∈ cs ∧ signal.available e}.ncard ∧
    (∀ e ∈ cs, signal.available e → e ∉ selected → ∀ x ∈ selected,
      standing signal requestId x < standing signal requestId e) ∧
    ∀ cs', (∀ e, e ∈ cs' ↔ e ∈ cs) → selectLeastLoaded signal requestId cs' count = selected := by
  intro selected
  have hranks := ranks_ranking signal requestId cs
  refine ⟨⟨_, hranks, fun l' hl' => hl'.unique hranks, rfl⟩, ?_, ?_, ?_⟩
  · rw [← hranks.length_eq]
    exact List.length_take
  · intro e he havailable hout x hx
    exact hranks.lt_of_mem_take hx ((hranks.mem_iff e).mpr ⟨he, havailable⟩) hout
  · intro cs' hset
    have hsame := (ranks_ranking signal requestId cs').unique (hranks.congr hset)
    exact congrArg (List.take count) hsame

end PartitionRouting
