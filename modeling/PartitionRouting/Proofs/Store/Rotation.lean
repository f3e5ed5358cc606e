import PartitionRouting.Proofs.Selection.Rotation
import PartitionRouting.Proofs.Store.Replicas

/-!
# Replicas in turn

A store passes the candidates of a request on to its selector, and asking for replicas
changes nothing else that an answer depends on.  So the replicas of a sequence of requests
are what the selector answers to the calls that the requests come down to.  As all requests
move one cursor, two requests for one partition start at consecutive replicas only if
requests for other partitions in between do not get in the way.

## Main definitions

* `Store.Request`, `Store.answerAfter` — a request for replicas, and the answer that it is
  given after others.
* `Store.call?` — the call of the selector that a request comes down to.
* `Store.served` — the store once its selector has answered some calls.

## Main results

* `Store.run_requests` — requests for replicas change the selector and the counters alone.
* `Store.replicas_start_in_turn` — **two requests for one partition start at consecutive
  replicas exactly when a multiple of their number was served in between.**
-/

namespace PartitionRouting
namespace Store

/-! ### Requests -/

/-- A request for replicas. -/
structure Request where
  /-- The request. -/
  requestId : UInt64
  /-- The version. -/
  version : UInt32
  /-- The partition. -/
  partition : PartitionId
  /-- How many replicas it asks for. -/
  count : Nat

/-- Asking for the replicas of a request. -/
def Request.action (r : Request) : Action := .replicas r.requestId r.version r.partition r.count

/-- The answer to a request after a sequence of others. -/
def answerAfter (s : Store) (rs : List Request) (r : Request) :
    Except RoutingError (List Endpoint) :=
  ((s.run (rs.map Request.action)).value.replicas r.requestId r.version r.partition
    r.count).value.1

/-- What the selector is asked for a request, unless no node serves its partition. -/
def call? (s : Store) (r : Request) : Option Selector.Call :=
  (s.candidates r.version r.partition).value.toOption.map fun candidates =>
    ⟨s.simulation.signal, r.requestId, candidates, r.count⟩

/-! ### The selector of a store -/

/-- The store once its selector has answered some calls and something was counted. -/
def served (s : Store) (cs : List Selector.Call) (sink : Sink) : Store :=
  { s with
    selector := s.selector.serveAll cs
    simulation := { s.simulation with sink } }

/-- What a request comes down to does not depend on the requests before. -/
theorem call?_served (s : Store) (cs : List Selector.Call) (sink : Sink) :
    (s.served cs sink).call? = s.call? := rfl

theorem served_served (s : Store) (cs cs' : List Selector.Call) (sink sink' : Sink) :
    (s.served cs sink).served cs' sink' = s.served (cs ++ cs') sink' := by
  rw [served, served, served, Selector.serveAll_append]

theorem perform_request (s : Store) (r : Request) :
    ∃ sink, (s.perform r.action).value = s.served (s.call? r).toList sink := by
  have hvalue : (s.perform r.action).value =
      (s.replicas r.requestId r.version r.partition r.count).value.2 := rfl
  rw [hvalue, value_replicas, call?]
  cases (s.candidates r.version r.partition).value with
  | error cause => exact ⟨_, rfl⟩
  | ok candidates =>
    dsimp only
    rw [value_choose]
    exact ⟨_, rfl⟩

/-- **Requests for replicas change the selector and the counters alone**, and the selector
as the calls that they come down to. -/
theorem run_requests (s : Store) (rs : List Request) :
    ∃ sink, (s.run (rs.map Request.action)).value = s.served (rs.filterMap s.call?) sink := by
  induction rs generalizing s with
  | nil => exact ⟨s.simulation.sink, rfl⟩
  | cons r rest ih =>
    obtain ⟨sink, hfirst⟩ := s.perform_request r
    obtain ⟨sink', hrest⟩ := ih (s.served (s.call? r).toList sink)
    have hcalls : (r :: rest).filterMap s.call? =
        (s.call? r).toList ++ rest.filterMap s.call? := by
      rw [List.filterMap_cons]
      cases s.call? r <;> rfl
    refine ⟨sink', ?_⟩
    -- a request moves the cursor alone, so the next one finds the same candidates
    calc (s.run ((r :: rest).map Request.action)).value
      _ = ((s.perform r.action).value.run (rest.map Request.action)).value := rfl
      _ = (s.served (s.call? r).toList sink).served (rest.filterMap s.call?) sink' := by
        rw [hfirst, hrest, call?_served]
      _ = s.served ((r :: rest).filterMap s.call?) sink' := by rw [served_served, hcalls]

/-- A request is answered as its call is, after the calls of the requests before. -/
theorem answerAfter_eq {s : Store} {rs : List Request} {r : Request} {c : Selector.Call}
    (hc : s.call? r = some c) :
    s.answerAfter rs r = .ok ((s.selector.serveAll (rs.filterMap s.call?)).answer c) := by
  obtain ⟨sink, hrun⟩ := s.run_requests rs
  have hcandidates : (s.served (rs.filterMap s.call?) sink).candidates r.version r.partition =
      s.candidates r.version r.partition := rfl
  rw [answerAfter, hrun, value_replicas, hcandidates]
  rw [call?] at hc
  cases hvalue : (s.candidates r.version r.partition).value with
  | error cause =>
    rw [hvalue] at hc
    contradiction
  | ok candidates =>
    rw [hvalue] at hc
    dsimp only
    rw [value_choose, ← Option.some.inj hc]
    rfl

/-- **Where two requests for the same partition start.**  The second starts as many places
after the first as requests were given something from the first on; so it starts at the
replica next to that of the first exactly when the number of such requests in between is a
multiple of the number of available candidates.  This holds of the selector alone, and of
every store, whose answers are those of its selector. -/
theorem replicas_start_in_turn {turn : Selector} (hturn : turn.strategy = .roundRobin)
    {before between : List Selector.Call} {c c' : Selector.Call} (hc : c.counts)
    (hc' : c'.counts) (hsame : c'.available = c.available)
    (hsize : turn.cursor.toNat + (before ++ c :: between).length < UInt64.size) :
    let first := (turn.serveAll before).answer c
    let second := (turn.serveAll (before ++ c :: between)).answer c'
    (∃ x y, first.head? = some x ∧ second.head? = some y ∧
      PlacesAfter (between.countP (·.counts) + 1) c.available x y ∧
      (PlacesAfter 1 c.available x y ↔ c.available.length ∣ between.countP (·.counts))) ∧
    ∀ {s : Store} {rs rs' : List Request} {r r' : Request}, s.selector = turn →
      rs.filterMap s.call? = before → s.call? r = some c →
      rs'.filterMap s.call? = between → s.call? r' = some c' →
      s.answerAfter rs r = .ok first ∧ s.answerAfter (rs ++ r :: rs') r' = .ok second := by
  intro first second
  refine ⟨Selector.starts_consecutive_iff hturn hc hc' hsame hsize, ?_⟩
  intro s rs rs' r r' hs hrs hr hrs' hr'
  -- the requests that find candidates are the calls of the selector
  have hcalls : (rs ++ r :: rs').filterMap s.call? = before ++ c :: between := by
    rw [List.filterMap_append, List.filterMap_cons_some hr, hrs, hrs']
  constructor
  · rw [answerAfter_eq hr, hs, hrs]
  · rw [answerAfter_eq hr', hs, hcalls]

/-- With two requests for another partition in between, a partition with two replicas gets
its turn. -/
theorem replicas_start_in_turn_of_two_between :
    let ws : List Registry.Write :=
      [.set "store_v1" (.ofEntries [(0, [1]), (1, [1]), (2, [2]), (3, [2])])]
    let s : Store :=
      { name := "store", datasets := "store", registry := Registry.applyAll ∅ ws
        book := .ofPairs [(0, "a"), (1, "b"), (2, "c"), (3, "d")]
        selector := ⟨.roundRobin, 0⟩, simulation := .fresh {} {} .discarding }
    let r (id : UInt64) : Request := ⟨id, 1, 1, 1⟩
    let other (id : UInt64) : Request := ⟨id, 1, 2, 1⟩
    ∃ xs ys x y, s.answerAfter [] (r 1) = .ok xs ∧
      s.answerAfter [r 1, other 2, other 3] (r 4) = .ok ys ∧
      xs.head? = some x ∧ ys.head? = some y ∧ PlacesAfter 1 ["a", "b"] x y := by
  intro ws s r other
  let c (id : UInt64) : Selector.Call := ⟨s.simulation.signal, id, ["a", "b"], 1⟩
  let c' (id : UInt64) : Selector.Call := ⟨s.simulation.signal, id, ["c", "d"], 1⟩
  have hr (id : UInt64) : s.call? (r id) = some (c id) := by
    have hfound : (s.candidates 1 1).value = .ok ["a", "b"] := by decide +kernel
    rw [call?, hfound]
    rfl
  have hother (id : UInt64) : s.call? (other id) = some (c' id) := by
    have hfound : (s.candidates 1 2).value = .ok ["c", "d"] := by decide +kernel
    rw [call?, hfound]
    rfl
  have hbetween : [other 2, other 3].filterMap s.call? = [c' 2, c' 3] := by
    rw [List.filterMap_cons_some (hother 2), List.filterMap_cons_some (hother 3)]
    rfl
  have hsize : s.selector.cursor.toNat + ([] ++ c 1 :: [c' 2, c' 3]).length < UInt64.size := by
    decide
  obtain ⟨⟨x, y, hx, hy, -, hnext⟩, hanswers⟩ :=
    replicas_start_in_turn (rfl : s.selector.strategy = .roundRobin)
      (by decide +kernel : (c 1).counts) (by decide +kernel : (c 4).counts) rfl hsize
  obtain ⟨hfirst, hsecond⟩ := hanswers (rfl : s.selector = s.selector)
    (rfl : [].filterMap s.call? = []) (hr 1) hbetween (hr 4)
  refine ⟨_, _, x, y, hfirst, hsecond, hx, hy, ?_⟩
  have havailable : (c 1).available = ["a", "b"] := by decide +kernel
  rw [← havailable]
  exact hnext.mpr (by decide +kernel)

/-- A call with other candidates in between makes two candidates lose their turn: the same
one comes first again. -/
theorem starts_at_same_of_one_between :
    let turn : Selector := ⟨.roundRobin, 0⟩
    let c (id : UInt64) : Selector.Call := ⟨.ofLists [] [], id, ["a", "b"], 1⟩
    let other (id : UInt64) : Selector.Call := ⟨.ofLists [] [], id, ["c", "d"], 1⟩
    turn.answer (c 1) = ["a"] ∧ (turn.serveAll [c 1, other 2]).answer (c 3) = ["a"] ∧
      (c 1).available = ["a", "b"] ∧ ¬PlacesAfter 1 ["a", "b"] "a" "a" := by
  intro turn c other
  refine ⟨?_, ?_, ?_, ?_⟩
  · decide +kernel
  · decide +kernel
  · decide +kernel
  · have htwo : PlacesAfter 2 ["a", "b"] "a" "a" := ⟨0, rfl, rfl⟩
    rw [htwo.iff_modEq (by decide)]
    decide

end Store
end PartitionRouting
