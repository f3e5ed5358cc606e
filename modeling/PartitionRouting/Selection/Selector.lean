import PartitionRouting.Selection.Ranking
import PartitionRouting.Settings.Basic

/-!
# Selectors

A selector is a strategy together with what it remembers from request to request:
round robin remembers how many requests it has served, and wraps around with its
64-bit cursor.

## Main definitions

* `Selector` — a strategy and its cursor.
* `Selector.select` — the replicas of a request; `nodup_select`, `length_select` and
  `mem_availableCandidates_of_mem_select` say what may be selected.
* `Selector.next` — the selector after a request.
-/

namespace PartitionRouting

/-- A strategy and the number of requests that it served in turn. -/
structure Selector where
  /-- How replicas are selected. -/
  strategy : Strategy
  /-- How far the turn of round robin has come. -/
  cursor : UInt64 := 0
  deriving DecidableEq, Repr

namespace Selector

/-- Whether a request moves the cursor: round robin was asked for a replica and some
candidate is available. -/
def turns (s : Selector) (signal : HealthSignal) (candidates : List Endpoint)
    (count : Nat) : Bool :=
  s.strategy == .roundRobin && count != 0 && !(availableCandidates signal candidates).isEmpty

/-- The replicas of a request, at most `count` of them. -/
def select (s : Selector) (signal : HealthSignal) (requestId : UInt64)
    (candidates : List Endpoint) (count : Nat) : List Endpoint :=
  match s.strategy with
  | .leastLoaded => selectLeastLoaded signal requestId candidates count
  | .roundRobin => selectInTurn signal s.cursor candidates count

/-- Under either strategy the replicas are the first of the available candidates, in some
order. -/
theorem exists_perm_select (s : Selector) (signal : HealthSignal) (requestId : UInt64)
    (candidates : List Endpoint) (count : Nat) :
    ∃ order : List Endpoint, order.Perm (availableCandidates signal candidates) ∧
      s.select signal requestId candidates count = order.take count := by
  unfold select
  split
  · exact ⟨_, perm_ranking signal requestId candidates, rfl⟩
  · exact ⟨_, perm_turned _ _, rfl⟩

theorem nodup_select (s : Selector) (signal : HealthSignal) (requestId : UInt64)
    (candidates : List Endpoint) (count : Nat) :
    (s.select signal requestId candidates count).Nodup := by
  obtain ⟨order, hperm, heq⟩ := s.exists_perm_select signal requestId candidates count
  rw [heq]
  exact (hperm.nodup_iff.mpr (nodup_availableCandidates signal candidates)).sublist
    (List.take_sublist count order)

theorem length_select (s : Selector) (signal : HealthSignal) (requestId : UInt64)
    (candidates : List Endpoint) (count : Nat) :
    (s.select signal requestId candidates count).length =
      min count (availableCandidates signal candidates).length := by
  obtain ⟨order, hperm, heq⟩ := s.exists_perm_select signal requestId candidates count
  rw [heq, List.length_take, hperm.length_eq]

theorem mem_availableCandidates_of_mem_select {s : Selector} {signal : HealthSignal}
    {requestId : UInt64} {candidates : List Endpoint} {count : Nat} {e : Endpoint}
    (he : e ∈ s.select signal requestId candidates count) :
    e ∈ availableCandidates signal candidates := by
  obtain ⟨order, hperm, heq⟩ := s.exists_perm_select signal requestId candidates count
  rw [heq] at he
  exact hperm.mem_iff.mp (List.mem_of_mem_take he)

/-- The selector after a request. -/
def next (s : Selector) (signal : HealthSignal) (candidates : List Endpoint)
    (count : Nat) : Selector :=
  if s.turns signal candidates count then { s with cursor := s.cursor + 1 } else s

end Selector
end PartitionRouting
