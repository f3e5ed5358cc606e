import PartitionRouting.Proofs.Store.Step

/-!
# Courses of a store

A course of a store is any sequence of its steps: requests for replicas, writes to the registry
and changes of the address book stand in it wherever they like among the starts and the ends
of monitored requests.  What `Store.run` does for a list of actions is one course among these.
An action may be many steps: time that passes lets requests end, and a request that is sent to
several replicas is started once for each.

## Main definitions

* `Store.Course` — what has happened, in order, and the state that it led to.
* `Store.starts` — the starts of a request that is sent to several replicas.
* `Store.history` — what happens during a list of actions.

## Main results

* `Store.value_startEach` — sending a request to several replicas is a run of the simulation.
* `Store.course_history` — **every run is a course.**
-/

namespace PartitionRouting
namespace Store

/-- `Course s₀ h s` says that steps lead from `s₀` to `s`, and that `h` is what happened. -/
inductive Course (s₀ : Store) : List Occurrence → Store → Prop
  /-- Nothing has happened. -/
  | start : Course s₀ [] s₀
  /-- One step more. -/
  | step {h : List Occurrence} {s s' : Store} {o : Occurrence} (hc : Course s₀ h s)
    (hs : Step s o s') : Course s₀ (h ++ [o]) s'

variable {s s' s'' s₀ : Store} {o : Occurrence} {h h' : List Occurrence}

theorem Course.trans (hc : Course s h s') (hc' : Course s' h' s'') : Course s (h ++ h') s'' := by
  induction hc' with
  | start => rwa [List.append_nil]
  | step _ hs ih =>
    rw [← List.append_assoc]
    exact ih.step hs

theorem Step.course (hs : Step s o s') : Course s [o] s' := Course.start.step hs

/-- A course of the simulation is one of the store, in which nothing else happens. -/
theorem course_simulated {k : Simulation.History} {t : Simulation}
    (hc : Simulation.Course s.simulation k t) :
    Course s (k.occurrences.map .simulated) { s with simulation := t } := by
  induction hc with
  | start => exact Course.start
  | step _ hs ih =>
    rw [Simulation.History.occurrences_append, List.map_append]
    exact ih.step (Step.simulate hs)

/-! ### Flights in order -/

theorem orderly_step (hs : Step s o s') (hordered : s.simulation.Orderly) :
    s'.simulation.Orderly := by
  cases hs with
  | simulate hs => exact Simulation.orderly_step hs hordered
  | write hwrite =>
    obtain ⟨registry, rfl⟩ := exists_registry_of_write hwrite
    exact hordered
  | put _ _ => exact hordered
  | remove _ => exact hordered
  | ask hask =>
    obtain ⟨cursor, sink, rfl⟩ := exists_cursor_of_ask hask
    exact ⟨hordered.pairwise, hordered.clock_le, hordered.contacted⟩

theorem orderly_course (hc : Course s₀ h s) (hordered : s₀.simulation.Orderly) :
    s.simulation.Orderly := by
  induction hc with
  | start => exact hordered
  | step _ hs ih => exact orderly_step hs ih

/-! ### Runs -/

/-- The starts of a request that is sent to several replicas. -/
def starts (stem : String) (replicas : List Endpoint) : List Simulation.Action :=
  replicas.zipIdx.map fun (e, i) => .start (replicaLabel stem i) e

/-- **Sending a request to several replicas is a run of the simulation.** -/
theorem value_startEach (s : Store) (stem : String) (replicas : List Endpoint) :
    (s.startEach stem replicas).value =
      { s with simulation := (s.simulation.run (starts stem replicas)).value } := by
  rw [startEach, starts]
  generalize replicas.zipIdx = l
  induction l generalizing s with
  | nil => rfl
  | cons x rest ih =>
    exact ih { s with simulation := (s.simulation.start (some (replicaLabel stem x.2)) x.1).value }

/-- Requests are sent to the replicas of an answer, unless that is an error. -/
theorem value_perform_startReplicas (s : Store) (stem : String) (requestId : UInt64)
    (version : UInt32) (partition : PartitionId) (count : Nat) :
    (s.perform (.startReplicas stem requestId version partition count)).value =
      match (s.replicas requestId version partition count).value with
      | (.ok replicas, t) => (t.startEach stem replicas).value
      | (.error _, t) => t := by
  simp only [perform, Logged.value_map, startReplicas, Logged.value_bind]
  rcases (s.replicas requestId version partition count).value with ⟨_ | _, t⟩ <;> rfl

/-- What happens while requests are sent to the replicas of an answer. -/
def historyOfAnswer (s : Store) (stem : String) : Except RoutingError (List Endpoint) →
    List Occurrence
  | .ok replicas => (s.simulation.history (starts stem replicas)).occurrences.map .simulated
  | .error _ => []

/-- What happens during an action. -/
def historyOf (s : Store) : Action → List Occurrence
  | .write w => [.wrote w (s.write w).value.1]
  | .putEndpoint node endpoint => [.put node endpoint]
  | .removeEndpoint node => [.removed node]
  | .simulate a => (s.simulation.historyOf a).occurrences.map .simulated
  | .replicas id version partition count =>
    [.asked id version partition count (s.replicas id version partition count).value.1]
  | .startReplicas stem id version partition count =>
    let asked := (s.replicas id version partition count).value
    .asked id version partition count asked.1 :: asked.2.historyOfAnswer stem asked.1

/-- What happens during a sequence of actions. -/
def history (s : Store) : List Action → List Occurrence
  | [] => []
  | a :: rest => s.historyOf a ++ (s.perform a).value.history rest

theorem course_historyOf (hordered : s.simulation.Orderly) (a : Action) :
    Course s (s.historyOf a) (s.perform a).value := by
  cases a with
  | write w => exact (Step.write rfl).course
  | putEndpoint node endpoint => exact (Step.put s node endpoint).course
  | removeEndpoint node => exact (Step.remove s node).course
  | simulate a => exact course_simulated (Simulation.course_historyOf hordered a)
  | replicas id version partition count => exact (Step.ask rfl).course
  | startReplicas stem id version partition count =>
    cases hvalue : (s.replicas id version partition count).value with
    | mk answer t =>
      -- first the replicas are asked for, and then each is sent its request
      have hasked := Step.ask hvalue
      have hordered' := orderly_step hasked hordered
      rw [historyOf, hvalue, value_perform_startReplicas, hvalue]
      refine hasked.course.trans ?_
      cases answer with
      | error cause => exact Course.start
      | ok replicas =>
        dsimp only
        rw [value_startEach]
        exact course_simulated (Simulation.course_history hordered' _)

/-- **Every run is a course.**  What happens during a sequence of actions leads from a state
whose flights are in order to the state that the actions give. -/
theorem course_history (hordered : s.simulation.Orderly) (as : List Action) :
    Course s (s.history as) (s.run as).value := by
  induction as generalizing s with
  | nil => exact Course.start
  | cons a rest ih =>
    have ha := course_historyOf hordered a
    exact ha.trans (ih (orderly_course ha hordered))

end Store
end PartitionRouting
