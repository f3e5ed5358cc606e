import PartitionRouting.Proofs.Simulation.Log
import PartitionRouting.Proofs.Store.Step
import PartitionRouting.Proofs.Text.Reports

/-!
# No failure is silent

Whatever fails is reported while it fails, at one of the two upper levels and with what the
failure is about.  The reads and the writes of the registry give one error for one failure and
are calm otherwise; a request for replicas passes the failure of its candidates on and adds a
warning of its own; a monitored request that ends badly does so with a warning.

## Main definitions

* `Store.answer` — what a request for replicas gives, without the store after it.
* `Store.Call`, `Store.call` — the operations that can fail, as values, and what they give.
* `Store.TellsOfFailures` — what the log holds of every failure.

## Main results

* `Registry.candid_partitions` and the lemmas after it — each operation of the registry.
* `Store.candid_candidates`, `Store.events_answer_of_error` — candidates and replicas.
* `Simulation.reported_landed` — a monitored request that ends badly.
* `Store.failures_told` — **no failure is silent**, and no success is alarming.
-/

namespace PartitionRouting

open Text

/-! ### The registry -/

namespace Registry

variable {P : Event → Prop}

theorem candid_partitions (r : Registry) (d : String) (n : NodeId) :
    (r.partitions d n).Candid P := Attempt.candid_ofOption rfl Event.reports_unknownDatasetForNode

theorem candid_nodeAssignment (r : Registry) (d : String) : (r.nodeAssignment d).Candid P :=
  Attempt.candid_ofOption rfl Event.reports_unknownDataset

theorem candid_datasets (r : Registry) : r.datasets.Candid P := Attempt.candid_ok _

theorem candid_datasetAssignment (r : Registry) (n : NodeId) : (r.datasetAssignment n).Candid P :=
  Attempt.candid_ofOption rfl Event.reports_unknownNode

theorem candid_nodesForPartition (r : Registry) (d : String) (p : PartitionId) :
    (r.nodesForPartition d p).Candid P := by
  rw [nodesForPartition]
  cases r.byPartition[d]? with
  | none => exact Attempt.candid_fail rfl Event.reports_unknownDataset
  | some partitions => exact Attempt.candid_ofOption rfl Event.reports_unassignedPartition

/-- A write is refused for the name of its dataset, and otherwise gives no alarm. -/
theorem candid_attempt (r : Registry) (w : Write) : (r.attempt w).Candid fun y => ¬y.Alarms := by
  have hrefused : (Attempt.fail .emptyDatasetName emptyName : Attempt Registry).Candid
      fun y => ¬y.Alarms := Attempt.candid_fail rfl Event.reports_emptyDatasetName
  cases w with
  | set d a =>
    rw [attempt, setAssignment]
    split
    · exact hrefused
    · exact Attempt.candid_reported (Event.not_alarms_of_debug rfl)
  | delete d =>
    rw [attempt, deleteAssignment]
    split
    · exact hrefused
    · split
      · exact Attempt.candid_ok _
      · exact Attempt.candid_reported (Event.not_alarms_of_debug rfl)
  | add d n p =>
    rw [attempt, addPartition]
    split
    · exact hrefused
    · split
      · exact Attempt.candid_ok _
      · exact Attempt.candid_ok _

end Registry

/-! ### Candidates and replicas -/

theorem candid_datasetForVersion {P : Event → Prop} (store : String) (version : UInt32) :
    (datasetForVersion store version).Candid P := by
  rw [datasetForVersion]
  split
  · next h =>
    rw [h]
    exact Attempt.candid_fail rfl Event.reports_noVersionZero
  · exact Attempt.candid_ok _

namespace Store

variable (s : Store) (requestId : UInt64) (version : UInt32) (partition : PartitionId)
  (count : Nat)

/-- Candidates are given with warnings of the nodes that cannot be reached, or not at all. -/
theorem candid_candidates :
    (s.candidates version partition).Candid fun y => y.level ≠ .error := by
  have hcalm : ∀ y : Event, ¬y.Alarms → y.level ≠ .error := fun y hy h => hy (Or.inl h)
  refine Attempt.Candid.andThen hcalm (candid_datasetForVersion _ _) fun d => ?_
  refine Attempt.Candid.andThen hcalm (s.registry.candid_nodesForPartition d _) fun nodes => ?_
  refine Attempt.candid_succeed fun y hy => ?_
  obtain ⟨n, -, rfl⟩ := List.mem_map.mp hy
  simp [Event.level]

variable {s version partition}

/-- A request without candidates is reported for what it is, after what is missing. -/
theorem events_replicas_of_error {cause : RoutingError}
    (h : (s.candidates version partition).value = .error cause) :
    (s.replicas requestId version partition count).events =
      (s.candidates version partition).events ++
        [.noCandidates s.name version partition cause] := by
  simp only [replicas, Logged.events_bind]
  rw [h]
  rfl

theorem events_replicas_of_ok {cs : List Endpoint}
    (h : (s.candidates version partition).value = .ok cs) :
    (s.replicas requestId version partition count).events =
      (s.candidates version partition).events ++
        (s.choose requestId version partition count cs).events := by
  simp only [replicas, Logged.events_bind]
  rw [h]
  simp

/-- What the choice among candidates is reported as. -/
theorem mem_events_choose {cs : List Endpoint} {x : Event}
    (hx : x ∈ (s.choose requestId version partition count cs).events) :
    x = .noReplica s.name version partition cs ∨ x = .countersDamaged ∨
      ∃ replicas, x = .routed requestId replicas version partition := by
  unfold choose at hx
  dsimp only at hx
  split at hx
  · simp only [Logged.events_bind, Logged.events_emit, Logged.events_pure, List.append_nil,
      List.mem_append, List.mem_singleton] at hx
    rcases hx with rfl | hx | rfl
    · exact Or.inl rfl
    · exact Or.inr (Or.inl (Sink.eq_of_mem_events_recordAll hx))
    · exact Or.inr (Or.inr ⟨_, rfl⟩)
  · simp only [Logged.events_bind, Logged.events_emit, Logged.events_pure, List.append_nil,
      List.mem_append, List.mem_singleton] at hx
    rcases hx with hx | rfl
    · exact Or.inr (Or.inl (Sink.eq_of_mem_events_recordAll hx))
    · exact Or.inr (Or.inr ⟨_, rfl⟩)

/-- The answer to a request for replicas, as an attempt. -/
def answer (s : Store) (requestId : UInt64) (version : UInt32) (partition : PartitionId)
    (count : Nat) : Attempt (List Endpoint) :=
  ⟨(s.replicas requestId version partition count).value.1,
    (s.replicas requestId version partition count).events⟩

theorem value_answer_of_error {cause : RoutingError}
    (h : (s.candidates version partition).value = .error cause) :
    (s.answer requestId version partition count).value = .error cause := by
  rw [answer, value_replicas, h]

theorem exists_value_answer {cs : List Endpoint}
    (h : (s.candidates version partition).value = .ok cs) :
    ∃ replicas, (s.answer requestId version partition count).value = .ok replicas := by
  obtain ⟨sink, hvalue⟩ := exists_value_replicas h requestId count
  exact ⟨_, by rw [answer, hvalue]⟩

/-- **A request without candidates is reported for what is missing**, and once more with what
it asked for. -/
theorem events_answer_of_error {cause : RoutingError}
    (h : (s.answer requestId version partition count).value = .error cause) :
    ∃ before report, (s.answer requestId version partition count).events =
        before ++ [report, .noCandidates s.name version partition cause] ∧
      (∀ y ∈ before, ¬y.Alarms) ∧ report.level = .error ∧ report.Reports cause := by
  cases hvalue : (s.candidates version partition).value with
  | ok cs =>
    obtain ⟨replicas, hreplicas⟩ := exists_value_answer requestId count hvalue
    rw [hreplicas] at h
    contradiction
  | error cause' =>
    rw [value_answer_of_error requestId count hvalue] at h
    obtain rfl : cause' = cause := Except.error.inj h
    obtain ⟨before, report, hevents, hreport⟩ :=
      (s.candid_candidates version partition).failed cause' hvalue
    refine ⟨before, report, ?_, hreport⟩
    rw [answer, events_replicas_of_error requestId count hvalue, hevents,
      List.append_assoc]
    rfl

/-- A request that is answered gives no more than warnings. -/
theorem level_ne_error_of_answered {replicas : List Endpoint}
    (h : (s.answer requestId version partition count).value = .ok replicas) :
    ∀ x ∈ (s.answer requestId version partition count).events, x.level ≠ .error := by
  cases hvalue : (s.candidates version partition).value with
  | error cause =>
    rw [value_answer_of_error requestId count hvalue] at h
    contradiction
  | ok cs =>
    rw [answer, events_replicas_of_ok requestId count hvalue]
    refine List.forall_mem_append.mpr
      ⟨(s.candid_candidates version partition).succeeded cs hvalue, fun x hx => ?_⟩
    rcases mem_events_choose requestId count hx with rfl | rfl | ⟨replicas, rfl⟩
    all_goals simp [Event.level]

end Store

/-! ### Monitored requests -/

/-- A request that ends badly is reported with its endpoint. -/
theorem Ending.reported {x : Ending} {e : Endpoint} {cause : RoutingError}
    (h : x.result e = .error cause) : Reported (x.events e) cause := by
  cases x with
  | answered code => contradiction
  | broken failure =>
    obtain rfl := Except.error.inj h
    exact ⟨_, List.mem_cons_self, Event.reports_transportFailed⟩
  | timedOut limit =>
    obtain rfl := Except.error.inj h
    exact ⟨_, List.mem_singleton_self _, Event.reports_abandoned⟩

namespace Simulation

variable {s s' : Simulation} {f : Flight} {found : Ending}

theorem mem_events_land {x : Event} (h : s.countable f)
    (hx : x ∈ found.events f.endpoint) : x ∈ (s.land f found).events := by
  have hcounted : s.sink.accepts (.measure f.endpoint (.waited (f.elapsed s.clock))) = true := h
  simp only [land, Logged.events_bind]
  rw [if_pos hcounted]
  simp only [Logged.events_bind, Logged.events_emitAll, List.mem_append]
  exact Or.inr (Or.inl hx)

/-- **A monitored request that ends badly is reported at the moment at which it ends.** -/
theorem reported_landed (hs : Step s (.landed f) s') :
    ∃ found, f.poll s.clock = some found ∧ ∀ cause, found.result f.endpoint = .error cause →
      Reported (Moment.events ⟨s, .landed f⟩) cause := by
  cases hs with
  | @land _ found _ hpoll hcountable =>
    refine ⟨found, hpoll, fun cause h => ?_⟩
    obtain ⟨x, hx, hreports⟩ := Ending.reported h
    have hevents : Moment.events ⟨s, .landed f⟩ = ((s.without f).land f found).events :=
      pollEvents_eq hpoll
    rw [hevents]
    exact ⟨x, mem_events_land (s := s.without f) hcountable hx, hreports⟩

end Simulation

/-! ### All operations -/

namespace Store

/-- An operation that may fail. -/
inductive Call
  /-- Asks for the datasets. -/
  | datasets
  /-- Asks for the partitions of a node in a dataset. -/
  | partitions (dataset : String) (node : NodeId)
  /-- Asks for the nodes of a dataset. -/
  | nodeAssignment (dataset : String)
  /-- Asks for the datasets of a node. -/
  | datasetAssignment (node : NodeId)
  /-- Asks for the nodes that serve a partition. -/
  | nodesForPartition (dataset : String) (partition : PartitionId)
  /-- Writes to the registry. -/
  | write (w : Registry.Write)
  /-- Asks for the dataset of a version. -/
  | datasetForVersion (version : UInt32)
  /-- Asks for the candidates of a request. -/
  | candidates (version : UInt32) (partition : PartitionId)
  /-- Asks for the replicas for a request. -/
  | replicas (requestId : UInt64) (version : UInt32) (partition : PartitionId) (count : Nat)

/-- The operations of the registry. -/
def Call.OnRegistry : Call → Prop
  | datasets | partitions _ _ | nodeAssignment _ | datasetAssignment _ | nodesForPartition _ _
  | write _ => True
  | datasetForVersion _ | candidates _ _ | replicas _ _ _ _ => False

/-- Whether an operation fails, and what it reports. -/
def call (s : Store) : Call → Attempt Unit
  | .datasets => s.registry.datasets.forget
  | .partitions d n => (s.registry.partitions d n).forget
  | .nodeAssignment d => (s.registry.nodeAssignment d).forget
  | .datasetAssignment n => (s.registry.datasetAssignment n).forget
  | .nodesForPartition d p => (s.registry.nodesForPartition d p).forget
  | .write w => ⟨(s.write w).value.1, (s.write w).events⟩
  | .datasetForVersion v => (PartitionRouting.datasetForVersion s.datasets v).forget
  | .candidates v p => (s.candidates v p).forget
  | .replicas id v p n => (s.answer id v p n).forget

theorem call_write (s : Store) (w : Registry.Write) :
    s.call (.write w) = (s.registry.attempt w).forget := by
  rw [call, Attempt.forget]
  simp only [write, Logged.value_bind, Logged.events_bind]
  cases (s.registry.attempt w).value with
  | ok registry => exact Logged.ext rfl (List.append_nil _)
  | error cause => exact Logged.ext rfl (List.append_nil _)

theorem candid_call_of_onRegistry (s : Store) {c : Call} (hc : c.OnRegistry) :
    (s.call c).Candid fun y => ¬y.Alarms := by
  cases c with
  | datasets => exact s.registry.candid_datasets.forget
  | partitions d n => exact (s.registry.candid_partitions d n).forget
  | nodeAssignment d => exact (s.registry.candid_nodeAssignment d).forget
  | datasetAssignment n => exact (s.registry.candid_datasetAssignment n).forget
  | nodesForPartition d p => exact (s.registry.candid_nodesForPartition d p).forget
  | write w =>
    rw [call_write]
    exact (s.registry.candid_attempt w).forget
  | datasetForVersion v => exact hc.elim
  | candidates v p => exact hc.elim
  | replicas id v p n => exact hc.elim

/-- A failure of any operation is reported. -/
theorem reported_call (s : Store) {c : Call} {cause : RoutingError}
    (h : (s.call c).value = .error cause) : Reported (s.call c).events cause := by
  by_cases hc : c.OnRegistry
  · exact (s.candid_call_of_onRegistry hc).reported h
  · cases c with
    | datasetForVersion v =>
      have hcandid : (PartitionRouting.datasetForVersion s.datasets v).Candid fun y => ¬y.Alarms :=
        candid_datasetForVersion _ _
      exact hcandid.forget.reported h
    | candidates v p => exact (s.candid_candidates v p).forget.reported h
    -- the failure of the candidates comes before the warning of the request
    | replicas id v p n =>
      obtain ⟨before, report, hevents, -, -, hreport⟩ :=
        events_answer_of_error id n (Attempt.value_forget_eq_error_iff.mp h)
      refine ⟨report, ?_, hreport⟩
      rw [call, Attempt.forget, hevents]
      simp
    | _ => exact absurd trivial hc

/-- **What the log holds of the failures of a store.** -/
structure TellsOfFailures (s : Store) : Prop where
  /-- Whatever fails is reported meanwhile, with what the failure is about. -/
  calls : ∀ c cause, (s.call c).value = .error cause → Reported (s.call c).events cause
  /-- A request that is refused is reported by one warning, with what it asked for. -/
  refusals : ∀ id version partition count cause,
    (s.answer id version partition count).value = .error cause →
      ∃ x, (s.answer id version partition count).events.filter (·.level = .warn) = [x] ∧
        Within s.name x.text ∧ Within (toString version.toNat) x.text ∧
        Within (toString partition.toNat) x.text
  /-- A monitored request ends with what a poll has found, and if that is bad, it is reported
  at the same moment. -/
  requests : ∀ h t, Simulation.Course s.simulation h t → ∀ m ∈ h, ∀ f, m.what = .landed f →
    ∃ found, f.poll m.before.clock = some found ∧
      ∀ cause, found.result f.endpoint = .error cause → Reported m.events cause
  /-- A request that is given replicas is reported by no error. -/
  answered : ∀ id version partition count replicas,
    (s.answer id version partition count).value = .ok replicas →
      ∀ x ∈ (s.answer id version partition count).events, x.level ≠ .error
  /-- An operation of the registry that succeeds is reported by no error and no warning. -/
  succeeded : ∀ c : Call, c.OnRegistry → (s.call c).value = .ok () →
    ∀ x ∈ (s.call c).events, x.level ≠ .error ∧ x.level ≠ .warn

/-- The warning of a request that is refused names what was asked for. -/
theorem within_text_noCandidates (name : String) (version : UInt32) (partition : PartitionId)
    (cause : RoutingError) :
    Within name (Event.noCandidates name version partition cause).text ∧
      Within (toString version.toNat) (Event.noCandidates name version partition cause).text ∧
      Within (toString partition.toNat)
        (Event.noCandidates name version partition cause).text := by
  refine ⟨?_, ?_, ?_⟩
  · exact ((((((within_append _ name).append _).append _).append _).append _).append _).append _
  · exact ((((within_append _ (toString version.toNat)).append _).append _).append _).append _
  · exact ((within_append _ (toString partition.toNat)).append _).append _

/-- **No failure is silent, and no success is alarming**, in any state. -/
theorem failures_told (s : Store) : s.TellsOfFailures where
  calls _ _ h := s.reported_call h
  refusals id version partition count cause h := by
    obtain ⟨before, report, hevents, hbefore, hlevel, -⟩ := events_answer_of_error id count h
    have hquiet : before.filter (·.level = .warn) = [] :=
      List.filter_eq_nil_iff.mpr fun y hy hwarn =>
        hbefore y hy (Or.inr (of_decide_eq_true hwarn))
    refine ⟨.noCandidates s.name version partition cause, ?_, within_text_noCandidates ..⟩
    rw [hevents, List.filter_append, hquiet, List.filter_cons_of_neg (by simp [hlevel]),
      List.nil_append]
    rfl
  requests h t hc m hm f hf := by
    obtain ⟨_, s', -, hstep⟩ := hc.exists_step hm
    cases m with
    | mk before what =>
      obtain rfl : what = .landed f := hf
      exact Simulation.reported_landed hstep
  answered id _ _ count _ h := level_ne_error_of_answered id count h
  succeeded c hc h x hx := not_or.mp ((s.candid_call_of_onRegistry hc).succeeded () h x hx)

/-- A store whose versions are in the datasets of another tells of both. -/
example :
    let s : Store :=
      { name := "shop", datasets := "depot", registry := ∅, book := ∅
        selector := ⟨.leastLoaded, 0⟩, simulation := .fresh {} {} .discarding }
    (s.answer 1 2 7 1).events.map (fun x => (x.level, x.text)) =
      [(.error, "dataset depot_v2 does not exist"),
        (.warn, "no candidates for store shop version 2 partition 7: " ++
          "DatasetNotFound \x7b dataset: \"depot_v2\" \x7d")] := by
  decide +kernel

end Store
end PartitionRouting
