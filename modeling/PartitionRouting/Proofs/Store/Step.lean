import PartitionRouting.Proofs.Simulation.Course
import PartitionRouting.Proofs.Store.Replicas

/-!
# Steps of a store

A store moves in small steps: the registry or the address book is written to, a request asks
for its replicas, or something happens in the simulation.  Asking for replicas and sending
requests to them are steps of their own, so anything else may happen in between.

## Main definitions

* `Store.Occurrence`, `Store.Step` — what can happen, and the step that it is.

## Main results

* `Store.eq_of_refused`, `exists_cursor_of_answered` — all that asking for replicas changes.
* `Store.strategy_step` — no step changes the strategy.
* `Store.record_step_of_ne` — **a step changes the health records of no instances but the one
  that it starts, ends or drops a request to**; asking for replicas changes none.
-/

namespace PartitionRouting

/-- A call changes at most the cursor of a selector. -/
theorem Selector.exists_next_eq (s : Selector) (signal : HealthSignal)
    (candidates : List Endpoint) (count : Nat) :
    ∃ cursor, s.next signal candidates count = { s with cursor } := by
  unfold next
  split
  · exact ⟨_, rfl⟩
  · exact ⟨_, rfl⟩

namespace Store

/-- Something that happens to a store. -/
inductive Occurrence
  /-- Something happened in the simulation. -/
  | simulated (o : Simulation.Occurrence)
  /-- The registry was written to, or refused to be. -/
  | wrote (w : Registry.Write) (answer : Except RoutingError Unit)
  /-- A node was given an endpoint. -/
  | put (node : NodeId) (endpoint : Endpoint)
  /-- The endpoint of a node was forgotten. -/
  | removed (node : NodeId)
  /-- Replicas were asked for. -/
  | asked (requestId : UInt64) (version : UInt32) (partition : PartitionId) (count : Nat)
    (answer : Except RoutingError (List Endpoint))

/-- The monitored request that something happened to. -/
def Occurrence.request? : Occurrence → Option Flight
  | simulated o => o.request?
  | _ => none

/-- **One step of a store.** -/
inductive Step : Store → Occurrence → Store → Prop
  /-- Something happens in the simulation. -/
  | simulate {s : Store} {o : Simulation.Occurrence} {t : Simulation}
    (h : Simulation.Step s.simulation o t) : Step s (.simulated o) { s with simulation := t }
  /-- The registry is written to. -/
  | write {s s' : Store} {w : Registry.Write} {answer : Except RoutingError Unit}
    (h : (s.write w).value = (answer, s')) : Step s (.wrote w answer) s'
  /-- A node is given an endpoint. -/
  | put (s : Store) (node : NodeId) (endpoint : Endpoint) :
    Step s (.put node endpoint) (s.putEndpoint node endpoint)
  /-- The endpoint of a node is forgotten. -/
  | remove (s : Store) (node : NodeId) : Step s (.removed node) (s.removeEndpoint node)
  /-- Replicas are asked for. -/
  | ask {s s' : Store} {requestId : UInt64} {version : UInt32} {partition : PartitionId}
    {count : Nat} {answer : Except RoutingError (List Endpoint)}
    (h : (s.replicas requestId version partition count).value = (answer, s')) :
    Step s (.asked requestId version partition count answer) s'

variable {s s' : Store} {o : Occurrence} {requestId : UInt64} {version : UInt32}
  {partition : PartitionId} {count : Nat} {replicas : List Endpoint} {cause : RoutingError}
  {e : Endpoint} {f : Flight}

/-! ### Writes and questions -/

/-- A write changes at most the registry. -/
theorem exists_registry_of_write {w : Registry.Write} {answer : Except RoutingError Unit}
    (h : (s.write w).value = (answer, s')) : ∃ registry, s' = { s with registry } := by
  simp only [write, Logged.value_bind] at h
  cases hattempt : (s.registry.attempt w).value with
  | ok registry =>
    rw [hattempt] at h
    exact ⟨registry, (Prod.mk.inj h).2.symm⟩
  | error cause =>
    rw [hattempt] at h
    exact ⟨s.registry, (Prod.mk.inj h).2.symm⟩

/-- A question that has candidates is answered by the selector. -/
theorem exists_value_replicas {cs : List Endpoint}
    (hcandidates : (s.candidates version partition).value = .ok cs) (requestId : UInt64)
    (count : Nat) :
    ∃ sink, (s.replicas requestId version partition count).value =
      (.ok (s.selector.select s.simulation.signal requestId cs count),
        { s with
          selector := s.selector.next s.simulation.signal cs count
          simulation := { s.simulation with sink } }) := by
  rw [value_replicas, hcandidates]
  dsimp only
  rw [value_choose]
  exact ⟨_, rfl⟩

/-- **A request that is refused changes nothing.** -/
theorem eq_of_refused
    (h : (s.replicas requestId version partition count).value = (.error cause, s')) : s' = s := by
  rw [value_replicas] at h
  cases hcandidates : (s.candidates version partition).value with
  | error cause =>
    rw [hcandidates] at h
    exact (Prod.mk.inj h).2.symm
  | ok cs =>
    rw [hcandidates] at h
    exact absurd (Prod.mk.inj h).1 (by simp)

/-- **A request that is answered changes at most the cursor, and counts its answer.** -/
theorem exists_cursor_of_answered
    (h : (s.replicas requestId version partition count).value = (.ok replicas, s')) :
    replicas.Nodup ∧ ∃ cursor, s' =
      { s with
        selector := { s.selector with cursor }
        simulation := { s.simulation with
          sink := (s.simulation.sink.recordAll (choiceRecordings replicas count)).value } } := by
  rw [value_replicas] at h
  cases hcandidates : (s.candidates version partition).value with
  | error cause =>
    rw [hcandidates] at h
    exact absurd (Prod.mk.inj h).1 (by simp)
  | ok cs =>
    rw [hcandidates] at h
    dsimp only at h
    rw [value_choose] at h
    simp only [Prod.mk.injEq, Except.ok.injEq] at h
    obtain ⟨rfl, rfl⟩ := h
    -- the selector changes in its cursor alone
    obtain ⟨cursor, hcursor⟩ := s.selector.exists_next_eq s.simulation.signal cs count
    exact ⟨Selector.nodup_select .., cursor, by rw [hcursor]⟩

/-- A question for replicas changes at most the cursor and the counters. -/
theorem exists_cursor_of_ask {answer : Except RoutingError (List Endpoint)}
    (h : (s.replicas requestId version partition count).value = (answer, s')) :
    ∃ cursor sink, s' =
      { s with
        selector := { s.selector with cursor }
        simulation := { s.simulation with sink } } := by
  cases answer with
  | error cause => exact ⟨_, _, eq_of_refused h⟩
  | ok replicas =>
    obtain ⟨-, cursor, hs'⟩ := exists_cursor_of_answered h
    exact ⟨cursor, _, hs'⟩

/-! ### Steps -/

theorem strategy_step (hs : Step s o s') : s'.selector.strategy = s.selector.strategy := by
  cases hs with
  | simulate _ => rfl
  | write h =>
    obtain ⟨registry, rfl⟩ := exists_registry_of_write h
    rfl
  | put _ _ => rfl
  | remove _ => rfl
  | ask h =>
    obtain ⟨cursor, sink, rfl⟩ := exists_cursor_of_ask h
    rfl

/-- **A step leaves the health records of the instances that it does not concern as they
are**; the writes and the questions concern none. -/
theorem record_step_of_ne (hs : Step s o s') (ho : ∀ f, o.request? = some f → f.endpoint ≠ e) :
    s'.simulation.monitor.record e = s.simulation.monitor.record e := by
  cases hs with
  | simulate h => exact Simulation.record_step_of_ne h ho
  | write h =>
    obtain ⟨registry, rfl⟩ := exists_registry_of_write h
    rfl
  | put _ _ => rfl
  | remove _ => rfl
  | ask h =>
    obtain ⟨cursor, sink, rfl⟩ := exists_cursor_of_ask h
    rfl

end Store
end PartitionRouting
