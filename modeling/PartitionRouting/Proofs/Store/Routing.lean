import PartitionRouting.Proofs.Counters.Totals
import PartitionRouting.Proofs.Store.Course
import PartitionRouting.Proofs.Store.Rotation

/-!
# What is counted of routing

How often an instance was picked is counted beside what became of its requests, and the
requests in flight go on writing to the same counters while replicas are asked for.  None of
them writes to the two counters of routing, so these follow the answers alone: of each
instance the answers that it is in, and of all the answers that are empty though something was
asked for.  In the other direction, an answer moves the cursor and these counters and nothing
else, and a refusal moves nothing.

## Main definitions

* `Simulation.recordings`, `Store.recordings` — what is counted when something happens.
* `Store.Occurrence.gave`, `gaveNone` — an answer that has an instance in it, and one that is
  empty though something was asked for.
* `Counters.Routes` — all that an answer changes of the counters.

## Main results

* `Simulation.sink_step`, `Store.sink_step` — the counters after a step.
* `Store.exists_recordings_of_course` — what was counted in a course agrees with the answers.
* `Store.answerAfter_of_leastLoaded` — by load, requests for replicas make no difference to
  one another.
* `Store.routing_counted` — **the counters of routing are those of the answers**, and an
  answer changes nothing else.
-/

namespace PartitionRouting

/-! ### Recordings -/

namespace Simulation

/-- What is counted when something happens. -/
def recordings (s : Simulation) : Occurrence → List Recording
  | .departed f => [.measure f.endpoint .request]
  | .landed f => ((f.poll s.clock).elim [] (s.measuresOf f)).map (.measure f.endpoint)
  | .lost f => [.measure f.endpoint (.waited (f.elapsed s.clock))]
  | _ => []

theorem measuresOf_without (s : Simulation) (f : Flight) (x : Ending) :
    (s.without f).measuresOf f x = s.measuresOf f x := rfl

theorem sink_land {s : Simulation} {f : Flight} {x : Ending} (h : s.countable f) :
    (s.land f x).value.sink =
      (s.sink.recordAll ((s.measuresOf f x).map (.measure f.endpoint))).value := by
  have hvalue := value_land (x := x) h
  generalize (s.sink.recordAll ((s.measuresOf f x).map (.measure f.endpoint))).value = sink
    at hvalue ⊢
  rw [hvalue]

/-- **A step of a simulation counts its recordings.** -/
theorem sink_step {s s' : Simulation} {o : Occurrence} (hs : Step s o s') :
    s'.sink = (s.sink.recordAll (s.recordings o)).value := by
  cases hs with
  | depart label e => rfl
  | @land f x _ hpoll hcountable =>
    have hcountable' : (s.without f).countable f = true := hcountable
    rw [sink_land hcountable', measuresOf_without, recordings, hpoll]
    rfl
  | @lose f x _ _ hlost =>
    have hlost' : (s.without f).countable f = false := hlost
    rw [value_land_of_lost hlost']
    rfl
  | drop _ => rfl
  | wait _ _ => rfl
  | change e c => rfl

/-- A monitored request does not count as routed, nor as one without replica. -/
theorem count_recordings (s : Simulation) (o : Occurrence) (e : Endpoint) :
    (s.recordings o).count (.measure e .routed) = 0 ∧ (s.recordings o).count .noReplica = 0 := by
  have hending : ∀ x : Ending, x.measure ≠ .routed := fun x => by
    cases x <;> simp [Ending.measure]
  constructor
  · rw [List.count_eq_zero]
    cases o with
    | landed f =>
      -- whatever a poll finds is counted as an ending
      rw [recordings]
      cases f.poll s.clock with
      | none => simp
      | some x =>
        have hne := (hending x).symm
        simp [measuresOf, hne]
    | _ => simp [recordings]
  · rw [List.count_eq_zero]
    cases o <;> simp [recordings]

end Simulation

/-! ### Choices -/

namespace Store

variable {replicas : List Endpoint} {count : ℕ} {e : Endpoint}

/-- An instance counts as routed if it was chosen. -/
theorem count_routed_choiceRecordings (hnodup : replicas.Nodup) (count : ℕ) (e : Endpoint) :
    (choiceRecordings replicas count).count (.measure e .routed) =
      if e ∈ replicas then 1 else 0 := by
  have hinjective : Function.Injective fun a => Recording.measure a .routed := by
    intro a b hab
    simpa using hab
  have hnone : (if replicas.isEmpty && count != 0 then [Recording.noReplica] else []).count
      (.measure e .routed) = 0 := by
    split <;> rfl
  rw [choiceRecordings, List.count_append, hnone, Nat.zero_add,
    List.count_map_of_injective replicas _ hinjective]
  exact hnodup.count

/-- A request counts as one without replica if it was to be given some. -/
theorem count_noReplica_choiceRecordings (replicas : List Endpoint) (count : ℕ) :
    (choiceRecordings replicas count).count .noReplica =
      if replicas.isEmpty && count != 0 then 1 else 0 := by
  have hrouted : (replicas.map fun a => Recording.measure a .routed).count .noReplica = 0 := by
    rw [List.count_eq_zero]
    simp
  rw [choiceRecordings, List.count_append, hrouted]
  split <;> rfl

theorem measure_mem_choiceRecordings {m : Measure} :
    .measure e m ∈ choiceRecordings replicas count ↔ e ∈ replicas ∧ m = .routed := by
  rw [choiceRecordings]
  split <;> simp [eq_comm]

end Store

/-- **All that a choice changes of the counters**, of which it bumps at most one for each
instance. -/
structure Counters.Routes (c : Counters) (replicas : List Endpoint) (count : ℕ)
    (c' : Counters) : Prop where
  /-- A replica is counted as routed, and no other counter of an instance changes. -/
  tally : ∀ e, c'.tally e =
    { c.tally e with routed := (c.tally e).routed + if e ∈ replicas then 1 else 0 }
  /-- The replicas are listed from then on. -/
  listed : ∀ e, e ∈ c'.tallies ↔ e ∈ c.tallies ∨ e ∈ replicas
  /-- A request is counted that was to be given something and is given nothing. -/
  withoutReplica : c'.withoutReplica =
    c.withoutReplica + if replicas.isEmpty && count != 0 then 1 else 0
  /-- The counters are damaged only if they were. -/
  damaged : c'.damaged = c.damaged

theorem Counters.routes_addAll {replicas : List Endpoint} (hnodup : replicas.Nodup)
    (c : Counters) (count : ℕ) :
    c.Routes replicas count (c.addAll (Store.choiceRecordings replicas count)) := by
  have htimes : ∀ e, Recording.times (Store.choiceRecordings replicas count) e = [] := by
    intro e
    rw [Recording.times, List.filterMap_eq_nil_iff]
    intro r hr
    rw [Option.eq_none_iff_forall_ne_some]
    intro d hd
    -- a time is not among what is recorded
    rw [Recording.time?_eq_some_iff.mp hd, Store.measure_mem_choiceRecordings] at hr
    exact absurd hr.2 (by simp)
  refine ⟨fun e => Tally.ext_count (fun m hm => ?_) ?_, fun e => ?_, ?_, ?_⟩
  · rw [count_tally_addAll c _ e hm]
    by_cases hrouted : m = .routed
    · subst hrouted
      rw [Store.count_routed_choiceRecordings hnodup]
      rfl
    · have hnone : Recording.measure e m ∉ Store.choiceRecordings replicas count := fun hmem =>
        hrouted (Store.measure_mem_choiceRecordings.mp hmem).2
      rw [List.count_eq_zero.mpr hnone]
      cases m with
      | routed => contradiction
      | outcome o => cases o <;> rfl
      | movedTo state => cases state <;> rfl
      | _ => rfl
  · have hnanos := nanos_waitingTime_addAll c (Store.choiceRecordings replicas count) e
    rw [htimes] at hnanos
    exact congrArg Duration.mk hnanos
  · rw [mem_tallies_addAll]
    simp [Store.measure_mem_choiceRecordings]
  · rw [withoutReplica_addAll, Store.count_noReplica_choiceRecordings]
  · cases hdamaged : c.damaged with
    | true => exact damaged_addAll_iff.mpr (Or.inl hdamaged)
    | false =>
      rw [damaged_addAll_eq_false_iff_kept]
      exact ⟨hdamaged, fun e => by rw [htimes, Duration.kept]⟩

namespace Store

variable {s s' s₀ : Store} {o : Occurrence} {h : List Occurrence} {requestId : UInt64}
  {version : UInt32} {partition : PartitionId} {count : ℕ} {replicas : List Endpoint}
  {e : Endpoint}

/-! ### Answers -/

/-- Whether an answer has `e` in it. -/
def Occurrence.gave (e : Endpoint) : Occurrence → Bool
  | asked _ _ _ _ (.ok replicas) => e ∈ replicas
  | _ => false

/-- Whether an answer is empty though something was asked for. -/
def Occurrence.gaveNone : Occurrence → Bool
  | asked _ _ _ count (.ok replicas) => replicas.isEmpty && count != 0
  | _ => false

/-- What is counted when something happens. -/
def recordings (s : Store) : Occurrence → List Recording
  | .simulated o => s.simulation.recordings o
  | .asked _ _ _ count (.ok replicas) => choiceRecordings replicas count
  | _ => []

/-- **A step of a store counts its recordings.** -/
theorem sink_step (hs : Step s o s') :
    s'.simulation.sink = (s.simulation.sink.recordAll (s.recordings o)).value := by
  cases hs with
  | simulate hs => exact Simulation.sink_step hs
  | write hwrite =>
    obtain ⟨registry, rfl⟩ := exists_registry_of_write hwrite
    rfl
  | put _ _ => rfl
  | remove _ => rfl
  | @ask _ _ _ _ _ answer hask =>
    cases answer with
    | error cause =>
      rw [eq_of_refused hask]
      rfl
    | ok replicas =>
      obtain ⟨-, cursor, rfl⟩ := exists_cursor_of_answered hask
      rfl

/-- The two counters of routing are bumped by answers alone. -/
theorem count_recordings (hs : Step s o s') (e : Endpoint) :
    (s.recordings o).count (.measure e .routed) = [o].countP (·.gave e) ∧
      (s.recordings o).count .noReplica = [o].countP (·.gaveNone) := by
  cases hs with
  | simulate hs => exact s.simulation.count_recordings _ e
  | write _ => exact ⟨rfl, rfl⟩
  | put _ _ => exact ⟨rfl, rfl⟩
  | remove _ => exact ⟨rfl, rfl⟩
  | @ask _ _ _ _ count answer hask =>
    cases answer with
    | error cause => exact ⟨rfl, rfl⟩
    | ok replicas =>
      obtain ⟨hnodup, -⟩ := exists_cursor_of_answered hask
      rw [List.countP_singleton, List.countP_singleton]
      refine ⟨?_, count_noReplica_choiceRecordings replicas count⟩
      refine (count_routed_choiceRecordings hnodup count e).trans ?_
      simp [Occurrence.gave]

/-! ### Courses -/

/-- **What was counted in a course agrees with the answers.** -/
theorem exists_recordings_of_course {c₀ : Counters} (hc : Course s₀ h s)
    (hsink : s₀.simulation.sink = .counting c₀) :
    ∃ rs, s.simulation.sink = .counting (c₀.addAll rs) ∧
      (∀ e, rs.count (.measure e .routed) = h.countP (·.gave e)) ∧
      rs.count .noReplica = h.countP (·.gaveNone) := by
  induction hc with
  | start => exact ⟨[], hsink, fun e => rfl, rfl⟩
  | @step h s s' o _ hs ih =>
    obtain ⟨rs, hcounting, hrouted, hwithout⟩ := ih
    refine ⟨rs ++ s.recordings o, ?_, fun e => ?_, ?_⟩
    · rw [sink_step hs, hcounting, Sink.value_recordAll_counting, Counters.addAll,
        Counters.addAll, List.foldl_append]
    · rw [List.count_append, hrouted e, (count_recordings hs e).1, List.countP_append]
    · rw [List.count_append, hwithout, (count_recordings hs "").2, List.countP_append]

/-- **By load, requests for replicas make no difference to one another.** -/
theorem answerAfter_of_leastLoaded (hstrategy : s.selector.strategy = .leastLoaded)
    (rs : List Request) (r : Request) : s.answerAfter rs r = s.answerAfter [] r := by
  obtain ⟨sink, hrun⟩ := s.run_requests rs
  have hcandidates : (s.served (rs.filterMap s.call?) sink).candidates r.version r.partition =
      s.candidates r.version r.partition := rfl
  have hserved : (s.served (rs.filterMap s.call?) sink).selector.strategy = .leastLoaded :=
    (Selector.strategy_serveAll _ _).trans hstrategy
  have hfirst : (s.run ([].map Request.action)).value = s := rfl
  rw [answerAfter, answerAfter, hrun, hfirst, value_replicas, value_replicas, hcandidates]
  cases (s.candidates r.version r.partition).value with
  | error cause => rfl
  | ok cs =>
    dsimp only
    rw [value_choose, value_choose, Selector.select, Selector.select, hserved, hstrategy]
    rfl

/-- **The counters of routing are those of the answers.**  However requests for replicas are
interleaved with writes to the registry, changes of the address book and monitored requests,
an instance is counted as routed once for each answer that it is in, and a request as one
without replica if its answer is empty though it asked for something.  A request that is
refused changes nothing; one that is answered changes, besides the cursor, these counters
alone, and under the least loaded strategy the next one is answered as if it had not come. -/
theorem routing_counted {c₀ : Counters} (hc : Course s₀ h s)
    (hsink : s₀.simulation.sink = .counting c₀) :
    ∃ c, s.simulation.sink = .counting c ∧
      (∀ e, (c.tally e).routed = (c₀.tally e).routed + h.countP (·.gave e)) ∧
      c.withoutReplica = c₀.withoutReplica + h.countP (·.gaveNone) ∧
      (∀ {requestId version partition count cause s'},
        (s.replicas requestId version partition count).value = (.error cause, s') → s' = s) ∧
      (∀ {requestId version partition count replicas s'},
        (s.replicas requestId version partition count).value = (.ok replicas, s') →
        ∃ cursor c', c.Routes replicas count c' ∧ s' =
          { s with
            selector := { s.selector with cursor }
            simulation := { s.simulation with sink := .counting c' } }) ∧
      (s.selector.strategy = .leastLoaded →
        ∀ rs r, s.answerAfter rs r = s.answerAfter [] r) := by
  obtain ⟨rs, hcounting, hrouted, hwithout⟩ := exists_recordings_of_course hc hsink
  refine ⟨c₀.addAll rs, hcounting, fun e => ?_, ?_, eq_of_refused, ?_,
    answerAfter_of_leastLoaded⟩
  -- what was recorded is counted, as it is no time that could be refused
  · have hcount := c₀.count_tally_addAll rs e (by simp : ∀ d, Measure.routed ≠ .waited d)
    rwa [hrouted e] at hcount
  · rw [Counters.withoutReplica_addAll, hwithout]
  · intro requestId version partition count replicas s' hanswer
    obtain ⟨hnodup, cursor, hs'⟩ := exists_cursor_of_answered hanswer
    rw [hcounting, Sink.value_recordAll_counting] at hs'
    exact ⟨cursor, _, Counters.routes_addAll hnodup _ count, hs'⟩

/-- Two replicas lose their endpoints one after the other, while requests are sent to both; the
last two requests ask for nothing, and for a version that there is not. -/
theorem routing_counted_of_lost_endpoints :
    let ws : List Registry.Write := [.set "store_v1" (.ofEntries [(0, [1]), (1, [1])])]
    let s₀ : Store :=
      { name := "store", datasets := "store", registry := Registry.applyAll ∅ ws
        book := .ofPairs [(0, "a"), (1, "b")], selector := ⟨.roundRobin, 0⟩
        simulation := .fresh {} {} (.counting {}) }
    let as : List Action :=
      [.startReplicas "r" 1 1 1 2, .removeEndpoint 1, .simulate (.send "b"), .replicas 2 1 1 2,
        .removeEndpoint 0, .replicas 3 1 1 2, .replicas 4 1 1 0, .replicas 5 0 1 2]
    let s := (s₀.run as).value
    ∃ c, s.simulation.sink = .counting c ∧ (c.tally "a").routed = 2 ∧ (c.tally "b").routed = 1 ∧
      c.withoutReplica = 1 ∧ (s.replicas 5 0 1 2).value.2 = s := by
  intro ws s₀ as s
  have hc : Course s₀ (s₀.history as) s := course_history (Simulation.orderly_fresh ..) as
  obtain ⟨c, hsink, hrouted, hwithout, hrefused, -, -⟩ :=
    routing_counted hc (rfl : s₀.simulation.sink = .counting {})
  have hgaveA : (s₀.history as).countP (·.gave "a") = 2 := by decide +kernel
  have hgaveB : (s₀.history as).countP (·.gave "b") = 1 := by decide +kernel
  have hgaveNone : (s₀.history as).countP (·.gaveNone) = 1 := by decide +kernel
  have hanswer : (s.replicas 5 0 1 2).value.1 = .error (.versionNotFound 0) := by decide +kernel
  have hsame : (s.replicas 5 0 1 2).value.2 = s := by
    clear_value s
    exact hrefused (Prod.ext hanswer rfl)
  refine ⟨c, hsink, ?_, ?_, ?_, hsame⟩
  · rw [hrouted, hgaveA, Counters.tally_empty]
  · rw [hrouted, hgaveB, Counters.tally_empty]
  · rw [hwithout, hgaveNone]

end Store
end PartitionRouting
