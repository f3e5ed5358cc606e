import PartitionRouting.Proofs.Store.Candidates
import PartitionRouting.Proofs.Store.Reports
import PartitionRouting.Proofs.Text.Octets

/-!
# Tracked instances

The monitor keeps a record of an instance from the first request to it on and reports once
that it does.  Nothing else makes a record: not the end of a request, and not the questions
that are asked about an instance.  So a snapshot lists those instances to which a request was
ever started, each of them once, and there are as many reports as there are rows.

## Main definitions

* `Event.tracked?`, `tracked` — the instances that a log reports as tracked, in order.
* `Monitor.ListedBy` — the records of a monitor are those of the instances that a log reports.
* `Simulation.Tracks` — what a snapshot says of the requests that were started.

## Main results

* `Monitor.mem_snapshot_iff`, `Monitor.ascending_snapshot` — a snapshot agrees with the other
  questions, and is in ascending order.
* `Simulation.listedBy_step`, `mem_records_step` — what a step adds to the log and to the
  records.
* `Simulation.snapshot_tracks` — **a snapshot is complete and faithful** in every course.
-/

namespace PartitionRouting

open Std

/-! ### Reports -/

namespace Event

/-- The instance that an event reports as tracked from now on. -/
def tracked? : Event → Option Endpoint
  | tracking e => some e
  | _ => none

/-- What a reader of the log takes for the report of a tracked instance. -/
def SaysTracking (x : Event) : Prop :=
  x.level = .debug ∧ "tracking new instance ".toList <+: x.text.toList

instance (x : Event) : Decidable x.SaysTracking := inferInstanceAs (Decidable (_ ∧ _))

theorem saysTracking_tracking (e : Endpoint) : (tracking e).SaysTracking := by
  have htext : (tracking e).text = "tracking new instance " ++ e := rfl
  rw [SaysTracking, htext, String.toList_append]
  exact ⟨rfl, List.prefix_append _ _⟩

/-- A sentence with another first letter says something else. -/
theorem not_saysTracking {x : Event} {c : Char} (hfirst : x.text.toList.head? = some c)
    (hc : c ≠ 't') : ¬x.SaysTracking := by
  rintro ⟨-, l, hl⟩
  have hletter : "tracking new instance ".toList.head? = some 't' := by decide +kernel
  rw [← hl, List.head?_append, hletter, Option.some_or] at hfirst
  exact hc (Option.some.inj hfirst).symm

theorem head?_append {start : String} {c : Char} (h : start.toList.head? = some c)
    (rest : String) : (start ++ rest).toList.head? = some c := by
  rw [String.toList_append, List.head?_append, h, Option.some_or]

/-- The other reports of this level begin with other letters. -/
theorem exists_head?_text {x : Event} (hlevel : x.level = .debug) (hx : x.tracked? = none) :
    ∃ c, c ≠ 't' ∧ x.text.toList.head? = some c := by
  cases x with
  | assignmentReplaced d =>
    refine ⟨'a', by decide, head?_append (head?_append ?_ _) _⟩
    decide +kernel
  | datasetAbsent d =>
    refine ⟨'d', by decide, head?_append (head?_append ?_ _) _⟩
    decide +kernel
  | routed id rs v p =>
    refine ⟨'r', by decide, head?_append (head?_append (head?_append (head?_append
      (head?_append (head?_append (head?_append (head?_append ?_ _) _) _) _) _) _) _) _⟩
    decide +kernel
  | answered e outcome =>
    refine ⟨'i', by decide, head?_append (head?_append ?_ _) _⟩
    decide +kernel
  | _ => contradiction

/-- The report of a tracked instance can be told from all others by its level and its
sentence. -/
theorem isSome_tracked?_iff (x : Event) : x.tracked?.isSome ↔ x.SaysTracking := by
  cases hx : x.tracked? with
  | some e =>
    have htracking : x = tracking e := by
      cases x <;> simp [tracked?] at hx
      rw [hx]
    rw [htracking]
    exact iff_of_true rfl (saysTracking_tracking e)
  | none =>
    refine iff_of_false Bool.false_ne_true fun hsays => ?_
    obtain ⟨c, hc, hfirst⟩ := exists_head?_text hsays.1 hx
    exact not_saysTracking hfirst hc hsays

end Event

/-- The instances that a log reports as tracked, in order. -/
def tracked (log : List Event) : List Endpoint := log.filterMap Event.tracked?

theorem tracked_append (log log' : List Event) :
    tracked (log ++ log') = tracked log ++ tracked log' := List.filterMap_append

theorem length_tracked (log : List Event) :
    (tracked log).length = log.countP (·.SaysTracking) := by
  rw [tracked, List.length_filterMap_eq_countP]
  exact List.countP_congr fun x _ => by rw [Event.isSome_tracked?_iff, decide_eq_true_eq]

theorem tracked_eq_nil {log : List Event} (h : ∀ x ∈ log, x.tracked? = none) : tracked log = [] :=
  List.filterMap_eq_nil_iff.mpr h

/-! ### Snapshots -/

namespace Monitor

variable {m : Monitor} {e : Endpoint} {r : Row} {log : List Event}

/-- **A snapshot agrees with the other questions.** -/
theorem mem_snapshot_iff :
    r ∈ m.snapshot ↔ m.pending r.endpoint = r.pending ∧ m.state? r.endpoint = some r.state := by
  rw [snapshot, List.mem_map, pending, state?]
  constructor
  · rintro ⟨⟨e, record⟩, hmem, rfl⟩
    have hrecord : m.records[e]? = some record := ExtTreeMap.mem_toList_iff_getElem?_eq_some.mp hmem
    simp [hrecord]
  · cases hrecord : m.records[r.endpoint]? with
    | none => simp
    | some record =>
      rintro ⟨hpending, hstate⟩
      refine ⟨(r.endpoint, record), ExtTreeMap.mem_toList_iff_getElem?_eq_some.mpr hrecord, ?_⟩
      cases r
      simp_all

theorem map_endpoint_snapshot (m : Monitor) : m.snapshot.map Row.endpoint = m.records.keys := by
  rw [snapshot, List.map_map, ← ExtTreeMap.map_fst_toList_eq_keys]
  rfl

/-- A snapshot has a row for each instance with a record. -/
theorem exists_mem_snapshot_iff : (∃ r ∈ m.snapshot, r.endpoint = e) ↔ e ∈ m.records := by
  rw [← List.mem_map, map_endpoint_snapshot, ExtTreeMap.mem_keys]

/-- **The rows of a snapshot ascend** in the order of the octets of their instances. -/
theorem ascending_snapshot (m : Monitor) :
    m.snapshot.Pairwise fun r r' => octets r.endpoint < octets r'.endpoint := by
  have hkeys : m.records.keys.Pairwise (· < ·) :=
    (ExtTreeMap.ordered_keys (t := m.records)).imp fun h => compareOfLessAndEq_eq_lt.mp h
  rw [← map_endpoint_snapshot, List.pairwise_map] at hkeys
  exact hkeys.imp octets_lt_iff.mpr

theorem mem_records_update_of_mem {a : Endpoint} {f : HealthRecord → HealthRecord}
    (he : e ∈ m.records) : a ∈ (m.update e f).records ↔ a ∈ m.records :=
  mem_records_update.trans (or_iff_right_of_imp fun ha => ha ▸ he)

/-- An instance without a record is answered for as one that nothing is known of. -/
theorem answers_of_notMem (he : e ∉ m.records) (now : Nat) :
    m.isAvailable now e = true ∧ m.pending e = 0 ∧ m.state? e = none := by
  have hnone : m.records[e]? = none := ExtTreeMap.getElem?_eq_none he
  simp [isAvailable, pending, state?, hnone]

/-- The records of a monitor are those of the instances that a log reports as tracked, and
none of them is reported twice. -/
structure ListedBy (m : Monitor) (log : List Event) : Prop where
  /-- An instance is reported once. -/
  nodup : (tracked log).Nodup
  /-- The instances with records are reported, and no others. -/
  mem_iff : ∀ e, e ∈ tracked log ↔ e ∈ m.records

/-- There are as many reports as there are rows. -/
theorem ListedBy.perm (h : m.ListedBy log) :
    (tracked log).Perm (m.snapshot.map Row.endpoint) := by
  rw [map_endpoint_snapshot]
  have hkeys : m.records.keys.Nodup := ExtTreeMap.nodup_keys
  refine (List.perm_ext_iff_of_nodup h.nodup hkeys).mpr fun e => ?_
  rw [h.mem_iff, ExtTreeMap.mem_keys]

/-- What reports no instance and makes no record changes nothing. -/
theorem ListedBy.append_silent {m' : Monitor} {more : List Event} (h : m.ListedBy log)
    (hmore : tracked more = []) (hrecords : ∀ e, e ∈ m'.records ↔ e ∈ m.records) :
    m'.ListedBy (log ++ more) := by
  have htracked : tracked (log ++ more) = tracked log := by
    rw [tracked_append, hmore, List.append_nil]
  refine ⟨?_, fun e => ?_⟩
  · rw [htracked]
    exact h.nodup
  · rw [htracked, hrecords]
    exact h.mem_iff e

end Monitor

/-! ### Steps -/

namespace Simulation

variable {s s' : Simulation} {o : Occurrence} {f : Flight} {found : Ending} {e : Endpoint}
  {log : List Event}

/-- The start of a request is reported as that of a tracked instance if there is no record of
the instance. -/
theorem tracked_depart (s : Simulation) (label : Option String) (e : Endpoint) :
    tracked (s.depart label e).events = if e ∈ s.monitor.records then [] else [e] := by
  have hsink : tracked (s.sink.record (.measure e .request)).events = [] :=
    tracked_eq_nil fun x hx => by rw [Sink.eq_of_mem_events_record hx]; rfl
  have hprobe : tracked (if s.monitor.admitsProbe s.clock e then [.probing e] else []) = [] := by
    split <;> rfl
  rw [depart, Logged.events_bind, Logged.events_bind, Logged.events_pure, List.append_nil,
    tracked_append, hsink, List.append_nil, Monitor.launch, tracked_append, hprobe,
    List.append_nil]
  by_cases he : e ∈ s.monitor.records
  · rw [if_pos (ExtTreeMap.contains_iff_mem.mpr he), if_pos he]
    rfl
  · rw [if_neg (mt ExtTreeMap.contains_iff_mem.mp he), if_neg he]
    rfl

theorem tracked_judge (m : Monitor) (now : Nat) (e : Endpoint) (v : Verdict) :
    tracked (m.judge now e v).events = [] := by
  rw [Monitor.judge]
  cases (m.record e).moveTo? ((m.record e).judge m.settings.threshold now v) with
  | none => rfl
  | some state => cases state <;> rfl

theorem tracked_ending (x : Ending) (e : Endpoint) : tracked (x.events e) = [] := by
  cases x <;> rfl

/-- The end of a request is reported as that of no tracked instance. -/
theorem tracked_land (s : Simulation) (f : Flight) (found : Ending) :
    tracked (s.land f found).events = [] := by
  cases h : s.countable f with
  | false =>
    refine tracked_eq_nil fun x hx => ?_
    rw [eq_of_mem_events_land_of_lost h hx]
    rfl
  | true =>
    obtain ⟨before, after, hevents, hbefore, hafter⟩ := exists_events_land h
    have hending := List.filterMap_eq_nil_iff.mp (tracked_ending found f.endpoint)
    have hfirst : tracked before = [] := tracked_eq_nil fun x hx => by
      rcases hbefore x hx with rfl | hx
      · rfl
      · exact hending x hx
    have hlast : tracked after = [] := tracked_eq_nil fun x hx => by rw [hafter x hx]; rfl
    rw [hevents, tracked_append, tracked_append, hfirst, tracked_judge, hlast]
    rfl

theorem tracked_pollEvents (s : Simulation) (f : Flight) : tracked (s.pollEvents f) = [] :=
  pollEvents_induction (P := fun l => tracked l = []) rfl fun found =>
    tracked_land (s.without f) f found

/-- The end of a request makes no record, as there is one of its instance. -/
theorem mem_records_land_iff (hf : f.endpoint ∈ s.monitor.records) :
    e ∈ (s.land f found).value.monitor.records ↔ e ∈ s.monitor.records := by
  cases h : s.countable f with
  | false =>
    rw [value_land_of_lost h]
    exact Monitor.mem_records_update_of_mem hf
  | true =>
    rw [value_land h]
    have hjudged : f.endpoint ∈
        (s.monitor.judge s.clock f.endpoint found.verdict).value.2.records :=
      Monitor.mem_records_update.mpr (Or.inl rfl)
    exact (Monitor.mem_records_update_of_mem hjudged).trans (Monitor.mem_records_update_of_mem hf)

/-- **A step makes a record of the instance that it starts a request to**, and no other. -/
theorem mem_records_step (hs : Step s o s') (hordered : s.Orderly) :
    e ∈ s'.monitor.records ↔
      e ∈ s.monitor.records ∨ ∃ f, o.started? = some f ∧ f.endpoint = e := by
  have hkept : o.started? = none → (e ∈ s'.monitor.records ↔ e ∈ s.monitor.records) →
      (e ∈ s'.monitor.records ↔
        e ∈ s.monitor.records ∨ ∃ f, o.started? = some f ∧ f.endpoint = e) := fun ho hrecords => by
    simp [ho, hrecords]
  cases hs with
  | depart label a =>
    have hstarted : (∃ f, some (s.newFlight label a) = some f ∧ f.endpoint = e) ↔ e = a := by
      simp [newFlight, eq_comm]
    rw [Occurrence.started?, hstarted, or_comm]
    exact Monitor.mem_records_update
  -- the instance of a request that is in flight has a record
  | @land f _ hf _ _ =>
    exact hkept rfl (mem_records_land_iff (s := s.without f) (hordered.contacted f hf))
  | @lose f _ hf _ _ =>
    exact hkept rfl (mem_records_land_iff (s := s.without f) (hordered.contacted f hf))
  | @drop f hf => exact hkept rfl (Monitor.mem_records_update_of_mem (hordered.contacted f hf))
  | wait _ _ => exact hkept rfl Iff.rfl
  | change a c => exact hkept rfl Iff.rfl

/-- **A step reports the instances that it makes records of.** -/
theorem listedBy_step (hs : Step s o s') (hordered : s.Orderly) (h : s.monitor.ListedBy log) :
    s'.monitor.ListedBy (log ++ Moment.events ⟨s, o⟩) := by
  -- a step that starts no request reports no instance
  have hsilent : o.started? = none → tracked (Moment.events ⟨s, o⟩) = [] →
      s'.monitor.ListedBy (log ++ Moment.events ⟨s, o⟩) := fun ho hevents =>
    h.append_silent hevents fun e => by simp [mem_records_step hs hordered, ho]
  cases hs with
  | depart label a =>
    have hevents : tracked (Moment.events ⟨s, .departed (s.newFlight label a)⟩) =
        if a ∈ s.monitor.records then [] else [a] := tracked_depart s label a
    have hrecords : ∀ e, e ∈ (s.depart label a).value.monitor.records ↔
        e = a ∨ e ∈ s.monitor.records := fun e => Monitor.mem_records_update
    by_cases ha : a ∈ s.monitor.records
    · rw [if_pos ha] at hevents
      exact h.append_silent hevents fun e => Monitor.mem_records_update_of_mem ha
    · rw [if_neg ha] at hevents
      have hfresh : a ∉ tracked log := mt (h.mem_iff a).mp ha
      refine ⟨?_, fun e => ?_⟩
      · rw [tracked_append, hevents]
        exact List.concat_eq_append ▸ h.nodup.concat hfresh
      · rw [tracked_append, hevents, List.mem_append, List.mem_singleton, h.mem_iff, hrecords]
        exact or_comm
  | @land f _ _ _ _ => exact hsilent rfl (tracked_pollEvents s f)
  | @lose f _ _ _ _ => exact hsilent rfl (tracked_pollEvents s f)
  | drop _ => exact hsilent rfl rfl
  | wait _ _ => exact hsilent rfl rfl
  | change a c => exact hsilent rfl rfl

/-! ### Courses -/

variable {h : History}

/-- After one more moment, the requests that started are those of before and the one of the
moment. -/
theorem started_concat_ne_nil_iff :
    History.started (h ++ [⟨s, o⟩]) e ≠ [] ↔
      h.started e ≠ [] ∨ ∃ f, o.started? = some f ∧ f.endpoint = e := by
  simp only [ne_eq, List.eq_nil_iff_forall_not_mem, not_forall_not]
  rw [← exists_or]
  exact exists_congr fun f => History.mem_requests_concat

/-- **There are records of the instances that requests were started to**, and of those that
there were records of at first. -/
theorem mem_records_course (hc : Course s h s') (hordered : s.Orderly) :
    e ∈ s'.monitor.records ↔ e ∈ s.monitor.records ∨ h.started e ≠ [] := by
  induction hc with
  | start => simp [History.started, History.requests]
  | @step h u u' o hc hs ih =>
    rw [mem_records_step hs (orderly_course hc hordered), ih, or_assoc, started_concat_ne_nil_iff]

theorem listedBy_course (hc : Course s h s') (hordered : s.Orderly)
    (hlog : s.monitor.ListedBy log) : s'.monitor.ListedBy (log ++ h.events) := by
  induction hc with
  | start => simpa [History.events] using hlog
  | step hc hs ih =>
    rw [History.events_concat, ← List.append_assoc]
    exact listedBy_step hs (orderly_course hc hordered) ih

end Simulation

/-! ### Questions -/

theorem tracked_andThen {α β : Type} {x : Attempt α} {f : α → Attempt β}
    (hx : tracked x.events = []) (hf : ∀ a, tracked (f a).events = []) :
    tracked (x.andThen f).events = [] := by
  cases hvalue : x.value with
  | error cause =>
    rw [Attempt.andThen_of_error hvalue]
    exact hx
  | ok a =>
    rw [Attempt.andThen_of_ok hvalue, tracked_append, hx, List.nil_append]
    exact hf a

namespace Store

variable (s : Store) (requestId : UInt64) (version : UInt32) (partition : PartitionId)
  (count : Nat)

/-- The candidates of a request are reported as no tracked instances. -/
theorem tracked_candidates : tracked (s.candidates version partition).events = [] := by
  refine tracked_andThen ?_ fun d => tracked_andThen ?_ fun nodes => ?_
  · rw [datasetForVersion]
    split <;> rfl
  · rw [Registry.events_nodesForPartition]
    split <;> rfl
  · refine tracked_eq_nil fun x hx => ?_
    obtain ⟨n, -, rfl⟩ := List.mem_map.mp hx
    rfl

/-- **A question for replicas tracks no instance**, whatever it asks about the candidates. -/
theorem tracked_replicas :
    tracked (s.replicas requestId version partition count).events = [] := by
  cases hvalue : (s.candidates version partition).value with
  | error cause =>
    rw [events_replicas_of_error requestId count hvalue, tracked_append, tracked_candidates]
    rfl
  | ok cs =>
    rw [events_replicas_of_ok requestId count hvalue, tracked_append, tracked_candidates,
      List.nil_append]
    refine tracked_eq_nil fun x hx => ?_
    rcases mem_events_choose requestId count hx with rfl | rfl | ⟨replicas, rfl⟩
    · rfl
    · rfl
    · rfl

theorem monitor_replicas :
    (s.replicas requestId version partition count).value.2.simulation.monitor =
      s.simulation.monitor := by
  cases hvalue : (s.replicas requestId version partition count).value with
  | mk answer t =>
    obtain ⟨cursor, sink, rfl⟩ := exists_cursor_of_ask hvalue
    rfl

end Store

/-! ### Snapshots of courses -/

namespace Simulation

variable {settings : HealthSettings} {network : Network} {sink : Sink} {h : History}
  {s : Simulation}

/-- **What a snapshot says of the requests that were started.** -/
structure Tracks (h : History) (s : Simulation) : Prop where
  /-- The instances that requests were started to are listed, and no others. -/
  listed : ∀ e, (∃ r ∈ s.monitor.snapshot, r.endpoint = e) ↔ h.started e ≠ []
  /-- The rows ascend in the order of octets, so that no instance is listed twice. -/
  ascending : s.monitor.snapshot.Pairwise fun r r' => octets r.endpoint < octets r'.endpoint
  /-- A row says what the questions about its instance are answered by. -/
  faithful : ∀ r ∈ s.monitor.snapshot,
    s.monitor.pending r.endpoint = r.pending ∧ s.monitor.state? r.endpoint = some r.state
  /-- An instance that is not listed may be asked about as well. -/
  unlisted : ∀ e, h.started e = [] →
    s.isAvailable e = true ∧ s.monitor.pending e = 0 ∧ s.monitor.state? e = none
  /-- Whoever selects replicas asks about every candidate; no row comes or goes by that, and
  none is reported. -/
  asked : ∀ w : Store, w.simulation = s → ∀ id version partition cs count,
    (w.select id cs count).2.simulation.monitor.snapshot = s.monitor.snapshot ∧
      (w.replicas id version partition count).value.2.simulation.monitor.snapshot =
        s.monitor.snapshot ∧
      (w.replicas id version partition count).events.countP (·.SaysTracking) = 0
  /-- The log holds one report for each row. -/
  reports : (tracked h.events).Perm (s.monitor.snapshot.map Monitor.Row.endpoint)
  /-- There are as many reports as there are rows. -/
  counted : h.events.countP (·.SaysTracking) = s.monitor.snapshot.length

/-- **A snapshot is complete and faithful**, however requests start, end and are dropped. -/
theorem snapshot_tracks (hc : Course (fresh settings network sink) h s) : Tracks h s := by
  have hordered := orderly_fresh settings network sink
  have hrecords : ∀ e, e ∈ s.monitor.records ↔ h.started e ≠ [] := fun e => by
    rw [mem_records_course hc hordered]
    exact or_iff_right ExtTreeMap.not_mem_empty
  -- the log of the course lists the instances with a record
  have hlisted : s.monitor.ListedBy h.events := by
    have hfresh : (fresh settings network sink).monitor.ListedBy [] :=
      ⟨List.nodup_nil, fun e => iff_of_false List.not_mem_nil ExtTreeMap.not_mem_empty⟩
    exact listedBy_course hc hordered hfresh
  refine ⟨?_, Monitor.ascending_snapshot _, ?_, ?_, ?_, hlisted.perm, ?_⟩
  · exact fun e => Monitor.exists_mem_snapshot_iff.trans (hrecords e)
  · exact fun r hr => Monitor.mem_snapshot_iff.mp hr
  · intro e hnever
    exact Monitor.answers_of_notMem (fun he => (hrecords e).mp he hnever) s.clock
  · rintro w rfl id version partition cs count
    refine ⟨rfl, ?_, ?_⟩
    · rw [Store.monitor_replicas]
    · rw [← length_tracked, Store.tracked_replicas]
      rfl
  · rw [← length_tracked, hlisted.perm.length_eq, List.length_map]

/-- Two requests to one instance overlap at its first use, one to another instance is dropped
at once, and a third instance fails; each of them is reported once and has a row. -/
theorem snapshot_tracks_of_overlapping_requests :
    let slow : Behaviour := { latency := .ofMillis 20 }
    let failing : Behaviour := { status := 503 }
    let s := fresh { unhealthyAfterFailures := 1 }
      { behaviours := .ofList [("b", slow), ("ä", slow), ("z", failing)] } (.counting {})
    let as : List Action := [.start "x" "b", .start "y" "b", .start "dropped" "ä",
      .cancel "dropped", .send "z", .advance 5]
    Tracks (s.history as) (s.run as).value ∧
      (s.run as).value.monitor.snapshot =
        [⟨"b", 2, .healthy⟩, ⟨"z", 0, .unhealthy⟩, ⟨"ä", 0, .healthy⟩] ∧
      (s.history as).events.countP (·.SaysTracking) = 3 ∧
      (s.run as).value.monitor.state? "unknown" = none := by
  intro slow failing s as
  have htracks : Tracks (s.history as) (s.run as).value :=
    snapshot_tracks (course_history (orderly_fresh ..) as)
  have hsnapshot : (s.run as).value.monitor.snapshot =
      [⟨"b", 2, .healthy⟩, ⟨"z", 0, .unhealthy⟩, ⟨"ä", 0, .healthy⟩] := by decide +kernel
  refine ⟨htracks, hsnapshot, ?_, ?_⟩
  · rw [htracks.counted, hsnapshot]
    rfl
  · decide +kernel

end Simulation
end PartitionRouting
