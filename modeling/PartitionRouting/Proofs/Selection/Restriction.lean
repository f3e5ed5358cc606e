import PartitionRouting.Proofs.Selection.Ranking

/-!
# Rankings under change

A ranking lists the available candidates by their standing, and the standing of a candidate
does not depend on the others.  So whatever leaves the standings as they are, the ranking of
fewer candidates is what is left of the ranking of more: a replica that is lost leaves the
others in their order.  If one of them is given more load, the others keep their order too,
and as at least those before it stay before it, it does not move forward.

## Main definitions

* `HealthSignal.Loses` — some instances are no longer available.
* `HealthSignal.Raises` — one instance has more requests in flight.

## Main results

* `Ranks.filter`, `ranking_eq_filter` — a ranking of fewer candidates.
* `idxOf_eq_countP` — the place of a candidate is the number of the better ones.
* `idxOf_le_of_raises` — more load does not move a candidate forward.
* `selection_stable` — **the order of the candidates that are left does not change**.
-/

namespace PartitionRouting

namespace HealthSignal

/-- **Some instances are no longer available**, with the same requests in flight. -/
structure Loses (signal signal' : HealthSignal) : Prop where
  /-- No instance becomes available. -/
  available : ∀ e, signal'.available e → signal.available e
  /-- The requests in flight are the same. -/
  pending : ∀ e, signal'.pending e = signal.pending e

/-- **The instance `x` has more requests in flight**, and nothing else changes. -/
structure Raises (signal : HealthSignal) (x : Endpoint) (signal' : HealthSignal) : Prop where
  /-- The same instances are available. -/
  available : ∀ e, signal'.available e = signal.available e
  /-- The requests to the other instances are the same. -/
  pending : ∀ e, e ≠ x → signal'.pending e = signal.pending e
  /-- The requests to `x` are no fewer. -/
  le : signal.pending x ≤ signal'.pending x

end HealthSignal

variable {signal signal' : HealthSignal} {requestId : UInt64} {cs cs' l : List Endpoint}
  {x e : Endpoint} {p : Endpoint → Bool}

/-! ### Standings -/

theorem standing_congr (requestId : UInt64) (h : signal'.pending e = signal.pending e) :
    standing signal' requestId e = standing signal requestId e := by
  rw [standing, standing, h]

theorem standing_le_of_pending_le (requestId : UInt64)
    (h : signal.pending e ≤ signal'.pending e) :
    standing signal requestId e ≤ standing signal' requestId e := by
  rw [standing, standing, Prod.Lex.toLex_le_toLex]
  rcases h.lt_or_eq with hlt | heq
  · exact Or.inl hlt
  · exact Or.inr ⟨heq, le_refl _⟩

/-! ### Fewer candidates -/

/-- **What is left of a ranking ranks the candidates that are left**, if their standings are
the same. -/
theorem Ranks.filter (hl : Ranks signal requestId cs l)
    (hleft : ∀ e, e ∈ cs' ∧ signal'.available e ↔ (e ∈ cs ∧ signal.available e) ∧ p e)
    (hpending : ∀ e, p e → signal'.pending e = signal.pending e) :
    Ranks signal' requestId cs' (l.filter p) where
  mem_iff e := by rw [List.mem_filter, hl.mem_iff, hleft]
  ascending := by
    refine (hl.ascending.filter p).imp_of_mem fun {x y} hx hy hlt => ?_
    rw [standing_congr requestId (hpending x (List.mem_filter.mp hx).2),
      standing_congr requestId (hpending y (List.mem_filter.mp hy).2)]
    exact hlt

theorem ranking_eq_filter
    (hleft : ∀ e, e ∈ cs' ∧ signal'.available e ↔ (e ∈ cs ∧ signal.available e) ∧ p e)
    (hpending : ∀ e, p e → signal'.pending e = signal.pending e) :
    ranking signal' requestId cs' = (ranking signal requestId cs).filter p :=
  (ranks_ranking signal' requestId cs').unique
    ((ranks_ranking signal requestId cs).filter hleft hpending)

/-- A selection that is to hold all candidates is their ranking. -/
theorem selectLeastLoaded_of_length_le (signal : HealthSignal) (requestId : UInt64)
    {cs : List Endpoint} {count : ℕ} (h : cs.length ≤ count) :
    selectLeastLoaded signal requestId cs count = ranking signal requestId cs := by
  have hranks := ranks_ranking signal requestId cs
  have hsubset : ranking signal requestId cs ⊆ cs := fun e he => ((hranks.mem_iff e).mp he).1
  have hlength := (hranks.nodup.subperm hsubset).length_le
  exact List.take_of_length_le (hlength.trans h)

/-! ### More load -/

/-- **The place of a candidate is the number of the better ones.** -/
theorem idxOf_eq_countP
    (hascending : l.Pairwise (standing signal requestId · < standing signal requestId ·))
    (hx : x ∈ l) :
    l.idxOf x = (l.filter (· ≠ x)).countP
      (standing signal requestId · < standing signal requestId x) := by
  induction l with
  | nil => contradiction
  | cons a rest ih =>
    rw [List.pairwise_cons] at hascending
    by_cases ha : a = x
    · -- all others come after it
      subst ha
      have hnone : ∀ b ∈ (a :: rest).filter (· ≠ a),
          ¬decide (standing signal requestId b < standing signal requestId a) = true := by
        intro b hb
        obtain ⟨hmem, hne⟩ := List.mem_filter.mp hb
        have hrest := (List.mem_cons.mp hmem).resolve_left (of_decide_eq_true hne)
        rw [decide_eq_true_eq]
        exact (hascending.1 b hrest).asymm
      rw [List.idxOf_cons_self, List.countP_eq_zero.mpr hnone]
    · have hmem := (List.mem_cons.mp hx).resolve_left (Ne.symm ha)
      have hbetter := hascending.1 x hmem
      rw [List.idxOf_cons_ne _ ha, List.filter_cons_of_pos (by simpa using ha),
        List.countP_cons_of_pos (by simpa using hbetter), ih hascending.2 hmem]

theorem idxOf_take {α : Type} [DecidableEq α] (l : List α) (x : α) (count : ℕ) :
    (l.take count).idxOf x = min count (l.idxOf x) := by
  induction l generalizing count with
  | nil => simp
  | cons a rest ih =>
    cases count with
    | zero => simp
    | succ count =>
      rw [List.take_succ_cons]
      by_cases ha : a = x
      · rw [List.idxOf_cons_eq _ ha, List.idxOf_cons_eq _ ha, Nat.min_zero]
      · rw [List.idxOf_cons_ne _ ha, List.idxOf_cons_ne _ ha, ih, Nat.succ_min_succ]

/-- The others keep their order. -/
theorem filter_ranking_of_raises (h : signal.Raises x signal') (requestId : UInt64)
    (cs : List Endpoint) :
    (ranking signal' requestId cs).filter (· ≠ x) =
      (ranking signal requestId cs).filter (· ≠ x) := by
  -- both are rankings of the others, as they are without `x`
  have hothers : ∀ {other : HealthSignal}, (∀ e, other.available e = signal.available e) →
      ∀ e, e ∈ cs.filter (· ≠ x) ∧ signal.available e ↔
        (e ∈ cs ∧ other.available e) ∧ decide (e ≠ x) = true := by
    intro other hother e
    rw [List.mem_filter, hother]
    tauto
  rw [← ranking_eq_filter (hothers h.available)
      fun e he => (h.pending e (of_decide_eq_true he)).symm,
    ← ranking_eq_filter (hothers fun _ => rfl) fun e _ => rfl]

/-- **More load does not move a candidate forward.** -/
theorem idxOf_le_of_raises (h : signal.Raises x signal') (requestId : UInt64)
    (cs : List Endpoint) :
    (ranking signal requestId cs).idxOf x ≤ (ranking signal' requestId cs).idxOf x := by
  have hranks := ranks_ranking signal requestId cs
  have hranks' := ranks_ranking signal' requestId cs
  have hsame : x ∈ ranking signal' requestId cs ↔ x ∈ ranking signal requestId cs := by
    rw [hranks.mem_iff, hranks'.mem_iff, h.available]
  by_cases hx : x ∈ ranking signal requestId cs
  · rw [idxOf_eq_countP hranks.ascending hx, idxOf_eq_countP hranks'.ascending (hsame.mpr hx),
      filter_ranking_of_raises h]
    -- a candidate that is better than `x` at first is so afterwards
    refine List.countP_mono_left fun e he hbetter => ?_
    have hne : e ≠ x := of_decide_eq_true (List.mem_filter.mp he).2
    rw [decide_eq_true_eq] at hbetter ⊢
    rw [standing_congr requestId (h.pending e hne)]
    exact hbetter.trans_le (standing_le_of_pending_le requestId h.le)
  · have hlength : (ranking signal requestId cs).length =
        (ranking signal' requestId cs).length := by
      rw [hranks.length_eq, hranks'.length_eq]
      simp only [h.available]
    rw [List.idxOf_of_notMem hx, List.idxOf_of_notMem fun hx' => hx (hsame.mp hx'), hlength]

/-! ### Selections -/

/-- **A selection by load is stable.**  One that is to hold all candidates holds those that are
available, and one that is to be longer goes on where a shorter one ends.  If some candidates are
not given, or are no longer available, the others are ranked as before.  If one of them has more
requests in flight, the others are ranked as before too, and it comes no earlier. -/
theorem selection_stable (signal : HealthSignal) (requestId : UInt64) (cs : List Endpoint) :
    (∀ {k}, cs.length ≤ k →
      ∀ e, e ∈ selectLeastLoaded signal requestId cs k ↔ e ∈ cs ∧ signal.available e) ∧
    (∀ {k k'}, k ≤ k' →
      selectLeastLoaded signal requestId cs k <+: selectLeastLoaded signal requestId cs k') ∧
    (∀ {ds : List Endpoint}, ds ⊆ cs → ∀ {k k'}, ds.length ≤ k → cs.length ≤ k' →
      selectLeastLoaded signal requestId ds k =
        (selectLeastLoaded signal requestId cs k').filter (· ∈ ds)) ∧
    (∀ {signal'}, signal.Loses signal' → ∀ {k}, cs.length ≤ k →
      selectLeastLoaded signal' requestId cs k =
        (selectLeastLoaded signal requestId cs k).filter signal'.available) ∧
    (∀ {x signal'}, signal.Raises x signal' →
      (∀ {k}, cs.length ≤ k →
        (selectLeastLoaded signal' requestId cs k).filter (· ≠ x) =
          (selectLeastLoaded signal requestId cs k).filter (· ≠ x)) ∧
      ∀ k, (selectLeastLoaded signal requestId cs k).idxOf x ≤
        (selectLeastLoaded signal' requestId cs k).idxOf x) := by
  refine ⟨?_, fun hle => List.take_prefix_take_left hle, ?_, ?_, ?_⟩
  · intro k hk e
    rw [selectLeastLoaded_of_length_le signal requestId hk]
    exact (ranks_ranking signal requestId cs).mem_iff e
  · intro ds hds k k' hk hk'
    -- with room for all, what is selected is the whole ranking
    have hleft : ∀ e, e ∈ ds ∧ signal.available e ↔
        (e ∈ cs ∧ signal.available e) ∧ decide (e ∈ ds) = true := by
      intro e
      have hmem := @hds e
      rw [decide_eq_true_eq]
      tauto
    rw [selectLeastLoaded_of_length_le signal requestId hk,
      selectLeastLoaded_of_length_le signal requestId hk']
    exact ranking_eq_filter hleft fun e _ => rfl
  · intro signal' hloses k hk
    have hleft : ∀ e, e ∈ cs ∧ signal'.available e ↔
        (e ∈ cs ∧ signal.available e) ∧ signal'.available e := by
      intro e
      have havailable := hloses.available e
      tauto
    rw [selectLeastLoaded_of_length_le signal' requestId hk,
      selectLeastLoaded_of_length_le signal requestId hk]
    exact ranking_eq_filter hleft fun e _ => hloses.pending e
  · intro x signal' hraises
    refine ⟨fun hk => ?_, fun k => ?_⟩
    · rw [selectLeastLoaded_of_length_le signal' requestId hk,
        selectLeastLoaded_of_length_le signal requestId hk]
      exact filter_ranking_of_raises hraises requestId cs
    · have hplace := idxOf_le_of_raises hraises requestId cs
      calc (selectLeastLoaded signal requestId cs k).idxOf x
        _ = min k ((ranking signal requestId cs).idxOf x) := idxOf_take _ x k
        _ ≤ min k ((ranking signal' requestId cs).idxOf x) := min_le_min_left k hplace
        _ = (selectLeastLoaded signal' requestId cs k).idxOf x := (idxOf_take _ x k).symm

/-- Of three candidates the last one is lost, or the one in the middle is given more load. -/
theorem selection_stable_of_three :
    let cs : List Endpoint := ["c", "a", "b", "a"]
    let signal : HealthSignal := .ofLists [] [("b", 1), ("c", 3)]
    let fewer : HealthSignal := .ofLists ["c"] [("b", 1), ("c", 3)]
    let more : HealthSignal := .ofLists [] [("b", 5), ("c", 3)]
    selectLeastLoaded signal 7 cs 4 = ["a", "b", "c"] ∧
      selectLeastLoaded fewer 7 cs 4 = ["a", "b"] ∧
      (selectLeastLoaded more 7 cs 4).filter (· ≠ "b") = ["a", "c"] ∧
      1 ≤ (selectLeastLoaded more 7 cs 4).idxOf "b" := by
  intro cs signal fewer more
  obtain ⟨-, -, -, hlost, hraised⟩ := selection_stable signal 7 cs
  have hbefore : ∀ {x y : Endpoint}, signal.pending x < signal.pending y →
      standing signal 7 x < standing signal 7 y := fun hlt =>
    Prod.Lex.toLex_lt_toLex.mpr (Or.inl hlt)
  have hranks : Ranks signal 7 cs ["a", "b", "c"] := by
    refine ⟨fun e => ?_, ?_⟩
    · simp [cs, signal, HealthSignal.ofLists]
      tauto
    · have hab := hbefore (by decide : signal.pending "a" < signal.pending "b")
      have hac := hbefore (by decide : signal.pending "a" < signal.pending "c")
      have hbc := hbefore (by decide : signal.pending "b" < signal.pending "c")
      simp [hab, hac, hbc]
  have hselected : selectLeastLoaded signal 7 cs 4 = ["a", "b", "c"] := by
    rw [selectLeastLoaded_of_length_le signal 7 (by decide)]
    exact (ranks_ranking signal 7 cs).unique hranks
  have hloses : signal.Loses fewer := ⟨fun e _ => rfl, fun e => rfl⟩
  have hraises : signal.Raises "b" more := by
    refine ⟨fun e => rfl, fun e he => ?_, by decide⟩
    have hb : (e == "b") = false := beq_false_of_ne he
    simp [signal, more, HealthSignal.ofLists, List.lookup_cons, hb]
  refine ⟨hselected, ?_, ?_, ?_⟩
  · rw [hlost hloses (by decide), hselected]
    decide +kernel
  · rw [(hraised hraises).1 (by decide), hselected]
    decide +kernel
  · have hplace := (hraised hraises).2 4
    rwa [hselected] at hplace

end PartitionRouting
