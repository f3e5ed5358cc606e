import Mathlib.Data.List.Perm.Basic
import PartitionRouting.Proofs.Selection.Rotation

/-!
# Fairness of selection in turn

As the cursor of round robin counts the calls that are given something, consecutive ones
among them are given neighbouring windows of the circle of candidates.  Once around, the
windows start at each candidate once, and each candidate is in as many of them as a window is
long.  Calls that are given nothing do not get in the way.

## Main definitions

* `Selector.answers` — the replicas that the calls of a sequence are given.

## Main results

* `flatMap_take_rotate_perm` — the windows of a circle hold every element equally often.
* `Selector.filter_answers` — the answers to calls with the same candidates are neighbouring
  windows.
* `Selector.turns_taken` — **the answer to any call, and fairness over one round.**
-/

namespace PartitionRouting

/-! ### Windows of a circle -/

section Windows

variable {α : Type} (l : List α) (m : ℕ)

/-- Read around from position `m` on, the places of a circle give the rotated list. -/
theorem filterMap_getElem?_mod :
    (List.range l.length).filterMap (fun i => l[(m + i) % l.length]?) = l.rotate m := by
  have hmap : (List.range l.length).map (fun i => l[(m + i) % l.length]?) =
      (l.rotate m).map some := by
    refine List.ext_getElem (by simp) fun i hi _ => ?_
    rw [List.length_map, List.length_range] at hi
    have hmod := Nat.mod_lt (m + i) (Nat.zero_lt_of_lt hi)
    simp [List.getElem_rotate, Nat.add_comm i m, List.getElem?_eq_getElem hmod]
  have hid := congrArg (List.filterMap id) hmap
  rwa [List.filterMap_map, List.filterMap_map, Function.id_comp, Function.id_comp,
    List.filterMap_some] at hid

/-- Once around, the windows start at each element in turn. -/
theorem filterMap_head?_take_rotate {k : ℕ} (hk : k ≠ 0) :
    ((List.range l.length).map fun i => (l.rotate (m + i)).take k).filterMap List.head? =
      l.rotate m := by
  rw [← filterMap_getElem?_mod, List.filterMap_map]
  refine List.filterMap_congr fun i hi => ?_
  have hpos : 0 < l.length := Nat.zero_lt_of_lt (List.mem_range.mp hi)
  rw [Function.comp_apply, List.head?_take, if_neg hk, ← List.rotate_mod]
  exact List.head?_rotate (Nat.mod_lt _ hpos)

/-- **Once around, the windows of length `k` hold every element `k` times.** -/
theorem flatMap_take_rotate_perm {k : ℕ} (hk : k ≤ l.length) :
    ((List.range l.length).flatMap fun i => (l.rotate (m + i)).take k).Perm
      (List.replicate k l).flatten := by
  induction k with
  | zero => simp
  | succ k ih =>
    -- the last places of the windows are the whole circle once more
    have hlast : ((List.range l.length).flatMap fun i => (l.rotate (m + i))[k]?.toList) =
        l.rotate (m + k) := by
      rw [← filterMap_getElem?_mod, List.filterMap_eq_flatMap_toList]
      refine List.flatMap_congr fun i _ => ?_
      rw [List.getElem?_rotate (by omega)]
      congr 3
      omega
    have hsplit : ((List.range l.length).flatMap fun i => (l.rotate (m + i)).take (k + 1)) =
        (List.range l.length).flatMap fun i =>
          (l.rotate (m + i)).take k ++ (l.rotate (m + i))[k]?.toList :=
      List.flatMap_congr fun i _ => List.take_add_one
    rw [hsplit, List.replicate_succ', List.flatten_concat]
    refine (List.flatMap_append_perm _ _ _).symm.trans ?_
    rw [hlast]
    exact (ih (by omega)).append (List.rotate_perm l (m + k))

end Windows

namespace Selector

/-! ### Answers -/

/-- The replicas that the calls of a sequence are given, one after another. -/
def answers (s : Selector) : List Call → List (List Endpoint)
  | [] => []
  | c :: rest => s.answer c :: (s.serve c).answers rest

/-- A call is given something exactly if it counts. -/
theorem answer_eq_nil_iff {s : Selector} (hs : s.strategy = .roundRobin) {c : Call} :
    s.answer c = [] ↔ c.counts = false := by
  have hanswer : s.answer c = _ := answer_serveAll hs [] c
  rw [hanswer, List.take_eq_nil_iff, List.rotate_eq_nil_iff, ← Bool.not_eq_true, Call.counts_iff]
  tauto

/-- The calls that count are given neighbouring windows of the circle of candidates; the
others are given nothing. -/
theorem filter_answers {s : Selector} (hs : s.strategy = .roundRobin) {window : List Call}
    {l : List Endpoint} {k : ℕ}
    (hsame : ∀ c ∈ window, c.counts → c.available = l ∧ c.count = k) :
    (s.answers window).filter (!·.isEmpty) =
      (List.range (window.countP (·.counts))).map fun i =>
        (l.rotate ((s.cursor.toNat + i) % UInt64.size)).take k := by
  induction window generalizing s with
  | nil => rfl
  | cons c rest ih =>
    obtain ⟨hc, hrest⟩ := List.forall_mem_cons.mp hsame
    have hserve := ih ((s.strategy_serve c).trans hs) hrest
    rw [cursor_serve hs] at hserve
    rw [answers]
    cases hcounts : c.counts with
    | false =>
      -- a call that does not count leaves the cursor, and its answer is empty
      have hnil : s.answer c = [] := (answer_eq_nil_iff hs).mpr hcounts
      rw [hnil, List.countP_cons_of_neg (by simpa using hcounts)]
      rw [hcounts] at hserve
      exact hserve
    | true =>
      obtain ⟨havailable, hcount⟩ := hc hcounts
      have hanswer : s.answer c = _ := answer_serveAll hs [] c
      have hsome : s.answer c ≠ [] := fun h => by
        rw [answer_eq_nil_iff hs, hcounts] at h
        contradiction
      rw [List.filter_cons_of_pos (by simpa using hsome), hanswer, havailable, hcount,
        List.countP_cons_of_pos hcounts, List.range_succ_eq_map, List.map_cons, List.map_map]
      rw [hcounts, if_pos rfl, UInt64.toNat_add] at hserve
      rw [hserve]
      refine congrArg _ (List.map_congr_left fun i _ => ?_)
      rw [Function.comp_apply, Nat.succ_eq_one_add, ← Nat.add_assoc]
      exact congrArg (fun m => (l.rotate m).take k) (Nat.mod_add_mod ..)

/-- As long as the cursor does not wrap around, the calls once around the circle are given all
its windows. -/
theorem filter_answers_round {s : Selector} (hs : s.strategy = .roundRobin) {window : List Call}
    {l : List Endpoint} {k : ℕ}
    (hsame : ∀ c ∈ window, c.counts → c.available = l ∧ c.count = k)
    (hlength : window.countP (·.counts) = l.length)
    (hwrap : s.cursor.toNat + l.length ≤ UInt64.size) :
    (s.answers window).filter (!·.isEmpty) =
      (List.range l.length).map fun i => (l.rotate (s.cursor.toNat + i)).take k := by
  rw [filter_answers hs hsame, hlength]
  refine List.map_congr_left fun i hi => ?_
  have hlt := List.mem_range.mp hi
  rw [Nat.mod_eq_of_lt (by omega)]

/-- If some call counts, the candidates are distinct and something is asked for. -/
theorem nodup_and_ne_zero_of_countP_pos {window : List Call} {l : List Endpoint} {k : ℕ}
    (hsame : ∀ c ∈ window, c.counts → c.available = l ∧ c.count = k)
    (hpos : 0 < window.countP (·.counts)) : l.Nodup ∧ k ≠ 0 := by
  obtain ⟨c, hc, hcounts⟩ := List.countP_pos_iff.mp hpos
  obtain ⟨rfl, rfl⟩ := hsame c hc hcounts
  exact ⟨c.nodup_available, (Call.counts_iff.mp hcounts).1⟩

/-- What is given over one round: each candidate comes first in its turn, and is selected as
often as a call asks for candidates. -/
theorem round_answers {s : Selector} (hs : s.strategy = .roundRobin) {window : List Call}
    {l : List Endpoint} {k : ℕ}
    (hsame : ∀ c ∈ window, c.counts → c.available = l ∧ c.count = k)
    (hlength : window.countP (·.counts) = l.length) (hk : k ≤ l.length)
    (hwrap : s.cursor.toNat + l.length ≤ UInt64.size) :
    (s.answers window).filterMap List.head? = l.rotate s.cursor.toNat ∧
      (s.answers window).flatten.Perm (List.replicate k l).flatten := by
  have hround := filter_answers_round hs hsame hlength hwrap
  have hheads : ((s.answers window).filter (!·.isEmpty)).filterMap List.head? =
      (s.answers window).filterMap List.head? := by
    rw [List.filterMap_filter]
    refine List.filterMap_congr fun a _ => ?_
    cases a <;> rfl
  constructor
  · rw [← hheads, hround]
    by_cases hl : l = []
    · rw [hl]
      rfl
    · have hpos : 0 < window.countP (·.counts) := hlength ▸ List.length_pos_of_ne_nil hl
      exact filterMap_head?_take_rotate l s.cursor.toNat
        (nodup_and_ne_zero_of_countP_pos hsame hpos).2
  · rw [← List.flatten_filter_not_isEmpty, hround, ← List.flatMap_def]
    exact flatMap_take_rotate_perm l s.cursor.toNat hk

/-- **The answers of round robin.**  A call that asks for something and has candidates is given
the first of them, turned by the number of such calls before; any other is given nothing.  Over
as many such calls in a row as there are candidates, all with the same candidates in the same
order and asking for `k` of them, each candidate comes first once and is selected `k` times,
unless the cursor wraps around meanwhile. -/
theorem turns_taken (before : List Call) :
    let s : Selector := ⟨.roundRobin, 0⟩
    let j := before.countP (·.counts) % UInt64.size
    (∀ c : Call, (s.serveAll before).answer c =
      if c.counts then
        (c.available.rotate (j % c.available.length)).take (min c.count c.available.length)
      else []) ∧
    ∀ {window : List Call} {l : List Endpoint} {k : ℕ},
      (∀ c ∈ window, c.counts → c.available = l ∧ c.count = k) →
      window.countP (·.counts) = l.length → k ≤ l.length → j + l.length ≤ UInt64.size →
      ∀ e ∈ l,
        (((s.serveAll before).answers window).filterMap List.head?).count e = 1 ∧
        ((s.serveAll before).answers window).flatten.count e = k := by
  intro s j
  have hs : s.strategy = .roundRobin := rfl
  constructor
  · intro c
    have hanswer := answer_serveAll hs before c
    have hcursor : s.cursor.toNat + before.countP (·.counts) = before.countP (·.counts) :=
      Nat.zero_add _
    rw [hcursor] at hanswer
    cases hcounts : c.counts with
    | false =>
      exact (answer_eq_nil_iff ((strategy_serveAll s before).trans hs)).mpr hcounts
    | true =>
      rw [if_pos rfl, hanswer, List.rotate_mod, ← List.length_rotate c.available j,
        ← List.take_eq_take_min]
  · intro window l k hsame hlength hk hwrap e he
    -- the window begins where the calls before have moved the cursor to
    have hcursor : (s.serveAll before).cursor.toNat = j := by
      rw [toNat_cursor_serveAll hs before]
      exact congrArg (· % UInt64.size) (Nat.zero_add _)
    rw [← hcursor] at hwrap
    obtain ⟨hheads, hselected⟩ :=
      round_answers ((strategy_serveAll s before).trans hs) hsame hlength hk hwrap
    have hpos : 0 < window.countP (·.counts) := hlength ▸ List.length_pos_of_mem he
    have honce : l.count e = 1 :=
      List.count_eq_one_of_mem (nodup_and_ne_zero_of_countP_pos hsame hpos).1 he
    constructor
    · rw [hheads, (List.rotate_perm l _).count_eq, honce]
    · rw [hselected.count_eq, List.count_flatten, List.map_replicate, honce]
      simp

/-- Three candidates, of which two are asked for at a time, have their turn although calls for
others come first and a call that is given nothing comes in between. -/
theorem turns_taken_of_interrupted_round :
    let signal : HealthSignal := .ofLists ["d"] []
    let other (id : UInt64) : Call := ⟨signal, id, ["x", "y"], 1⟩
    let idle : Call := ⟨signal, 7, ["d"], 4⟩
    let c (id : UInt64) : Call := ⟨signal, id, ["a", "d", "b", "a", "c"], 2⟩
    let before : List Call := [other 1, idle, other 2]
    let window : List Call := [c 3, idle, c 4, c 5]
    let given := ((⟨.roundRobin, 0⟩ : Selector).serveAll before).answers window
    given = [["c", "a"], [], ["a", "b"], ["b", "c"]] ∧
      ∀ e ∈ ["a", "b", "c"], (given.filterMap List.head?).count e = 1 ∧
        given.flatten.count e = 2 := by
  intro signal other idle c before window given
  have hsame : ∀ c ∈ window, c.counts → c.available = ["a", "b", "c"] ∧ c.count = 2 := by
    decide +kernel
  exact ⟨by decide +kernel, (turns_taken before).2 hsame (by decide +kernel) (by decide)
    (by decide +kernel)⟩

end Selector
end PartitionRouting
