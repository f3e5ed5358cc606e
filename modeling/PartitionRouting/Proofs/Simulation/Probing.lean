import PartitionRouting.Proofs.Simulation.Station

/-!
# Probes exclude each other

A request to an unhealthy instance is admitted as its probe only if no other is in flight.
The mark that says so belongs to the probe in flight: it is set when the probe starts and
taken back when that same probe ends, however often the instance recovers and fails in the
meantime.

## Main definitions

* `Station.Probed` — the mark counts the probes in flight.
* `Simulation.ProbedAlone` — at most one probe is in flight, and the mark says whether.
* `History.Routed` — requests were sent only where the monitor allowed it.
* `History.outage` — what happened since an instance was last judged unhealthy.

## Main results

* `Station.probed_move` — a step keeps the mark right.
* `Simulation.probes_exclusive` — **an unhealthy instance has at most one probe in flight**,
  and if requests are sent only where the monitor allows it, no other request that started
  during the outage.
-/

namespace PartitionRouting

open Std Simulation

/-! ### Stations -/

namespace Station

/-- **The mark in the record counts the probes in flight.** -/
def Probed (st : Station) : Prop := st.flights.countP (·.probe) = st.record.probing.toNat

variable {settings : HealthSettings} {now : Nat} {e : Endpoint} {st st' : Station}
  {o : Occurrence}

theorem probing_judged (st : Station) (threshold : Nat) (f : Flight) :
    (st.judged threshold f).probing = st.record.probing := by
  rw [judged]
  cases f.ending.verdict <;> rfl

/-- A probe is admitted only while the mark is not set. -/
theorem probing_eq_false_of_admitsProbe {r : HealthRecord} {retryAfter now : Nat}
    (h : r.admitsProbe retryAfter now) : r.probing = false :=
  (HealthRecord.admitsProbe_iff.mp h).2.1

theorem countP_probe_erase {f : Flight} {l : List Flight} (hf : f ∈ l) :
    (l.erase f).countP (·.probe) + f.probe.toNat = l.countP (·.probe) := by
  rw [(List.perm_cons_erase hf).countP_eq, List.countP_cons]
  cases f.probe <;> rfl

theorem countP_probe_schedule (f : Flight) (l : List Flight) :
    (schedule f l).countP (·.probe) = l.countP (·.probe) + f.probe.toNat := by
  rw [(perm_schedule f l).countP_eq, List.countP_cons]
  cases f.probe <;> rfl

/-- When a flight ends, the mark goes with it if the flight was the probe: a probe in
flight is the one that the mark stands for. -/
theorem probed_release {f : Flight} (hp : st.Probed) (hf : f ∈ st.flights) :
    (st.flights.erase f).countP (·.probe) = (st.record.probing && !f.probe).toNat := by
  have hcount := countP_probe_erase hf
  rw [hp] at hcount
  cases hprobe : f.probe with
  | false =>
    rw [hprobe] at hcount
    rw [Bool.not_false, Bool.and_true]
    exact hcount
  | true =>
    -- the flight is a probe itself, so the mark is set and no other probe is left
    rw [hprobe, Bool.toNat_true] at hcount
    have hle := Bool.toNat_le st.record.probing
    rw [Bool.not_true, Bool.and_false, Bool.toNat_false]
    omega

theorem probed_move (hm : Move settings now e st o st') (hp : st.Probed) : st'.Probed := by
  cases hm with
  | other ho => exact hp
  | @depart f he hstart hprobe =>
    show (schedule f st.flights).countP (·.probe) = (st.record.probing || f.probe).toNat
    rw [countP_probe_schedule, hp]
    cases hf : f.probe with
    | false => rw [Bool.or_false, Bool.toNat_false, Nat.add_zero]
    | true =>
      -- a probe is admitted only if the mark was not set, so there was no other
      rw [hf] at hprobe
      rw [probing_eq_false_of_admitsProbe hprobe.symm]
      rfl
  | @land f he hf hdue haccepts =>
    show (st.flights.erase f).countP (·.probe) =
      ((st.judged settings.threshold f).probing && !f.probe).toNat
    rw [probing_judged]
    exact probed_release hp hf
  | @lose f he hf hdue hrefuses => exact probed_release hp hf
  | @drop f he hf => exact probed_release hp hf

end Station

/-! ### Runs -/

namespace Simulation

variable {settings : HealthSettings} {network : Network} {sink : Sink} {h : History}
  {s : Simulation} {e : Endpoint} {f : Flight}

theorem probed_course (hc : Course (fresh settings network sink) h s) (e : Endpoint) :
    (s.station e).Probed := by
  refine station_course (P := fun _ st => st.Probed) (orderly_fresh settings network sink) ?_ ?_ hc
  · exact rfl
  · intro h s o st' _ hm hp
    exact Station.probed_move hm hp

/-- **At most one probe of `e` is in flight**, and the mark in the record of `e` says
whether there is one. -/
structure ProbedAlone (s : Simulation) (e : Endpoint) : Prop where
  /-- No two requests in flight to `e` were admitted as probes. -/
  atMostOne : (s.flights.filter fun f => f.endpoint = e ∧ f.probe).length ≤ 1
  /-- The mark is set exactly while a probe is in flight. -/
  marked : (s.monitor.record e).probing ↔ ∃ f ∈ s.flights, f.endpoint = e ∧ f.probe

theorem length_filter_probe (s : Simulation) (e : Endpoint) :
    (s.flights.filter fun f => f.endpoint = e ∧ f.probe).length =
      (s.station e).flights.countP (·.probe) := by
  rw [station, List.countP_filter, List.countP_eq_length_filter]
  congr 1
  simp [Bool.and_comm]

theorem probedAlone (hp : (s.station e).Probed) : s.ProbedAlone e where
  atMostOne := by
    rw [length_filter_probe, hp]
    exact Bool.toNat_le _
  marked := by
    have hpos : (s.monitor.record e).probing ↔ 0 < (s.station e).flights.countP (·.probe) := by
      rw [hp]
      show (s.station e).record.probing = true ↔ _
      cases (s.station e).record.probing <;> decide
    rw [hpos, List.countP_pos_iff]
    constructor
    · rintro ⟨f, hf, hprobe⟩
      obtain ⟨hf, he⟩ := mem_flights_station.mp hf
      exact ⟨f, hf, he, hprobe⟩
    · rintro ⟨f, hf, he, hprobe⟩
      exact ⟨f, mem_flights_station.mpr ⟨hf, he⟩, hprobe⟩

/-! ### Outages -/

namespace History

/-- Requests to `e` were sent only while the monitor allowed it. -/
def Routed (h : History) (e : Endpoint) : Prop :=
  ∀ m ∈ h, ∀ f ∈ m.what.started?, f.endpoint = e → m.before.isAvailable e

instance (h : History) (e : Endpoint) : Decidable (h.Routed e) :=
  inferInstanceAs
    (Decidable (∀ m ∈ h, ∀ f ∈ m.what.started?, f.endpoint = e → m.before.isAvailable e))

/-- What happened since `e` was last judged to be anything but unhealthy. -/
def outage (h : History) (e : Endpoint) : History :=
  (h.reverse.takeWhile fun m => m.before.monitor.state? e = some .unhealthy).reverse

theorem of_mem_outage {m : Moment} (hm : m ∈ h.outage e) :
    m ∈ h ∧ m.before.monitor.state? e = some .unhealthy := by
  have hm := List.mem_reverse.mp hm
  have hall := List.all_eq_true.mp List.all_takeWhile m hm
  exact ⟨List.mem_reverse.mp ((List.takeWhile_sublist _).subset hm), of_decide_eq_true hall⟩

end History

/-- A request starts as a probe if the record of its instance admits one. -/
theorem probe_of_step {s' : Simulation} {o : Occurrence} (hs : Step s o s')
    (ho : o.started? = some f) :
    f.probe = (s.monitor.record f.endpoint).admitsProbe s.monitor.settings.retryAfter s.clock := by
  obtain rfl := Occurrence.started?_eq_some_iff.mp ho
  cases hs with
  | depart label a => rfl

theorem state_record_of_state? (hs : s.monitor.state? e = some .unhealthy) :
    (s.monitor.record e).state = .unhealthy := by
  rw [Monitor.state?_eq] at hs
  split at hs
  · exact Option.some.inj hs
  · contradiction

/-- A request that the monitor allowed during an outage is a probe. -/
theorem probe_of_mem_outage (hc : Course (fresh settings network sink) h s) (hr : h.Routed e)
    (hf : f ∈ (h.outage e).started e) : f.endpoint = e ∧ f.probe := by
  obtain ⟨⟨m, hm, hstarted⟩, he⟩ := History.mem_requests.mp hf
  obtain ⟨hm, hunhealthy⟩ := History.of_mem_outage hm
  obtain ⟨-, s', -, hstep⟩ := hc.exists_step hm
  have havailable := hr m hm f hstarted he
  rw [isAvailable, Monitor.isAvailable_eq] at havailable
  refine ⟨he, ?_⟩
  rw [probe_of_step hstep hstarted, he, HealthRecord.admitsProbe, Bool.and_eq_true, beq_iff_eq]
  exact ⟨state_record_of_state? hunhealthy, havailable⟩

/-- While its probe is in flight an unhealthy instance is not available. -/
theorem isAvailable_eq_false (hp : s.ProbedAlone e) (hs : s.monitor.state? e = some .unhealthy)
    (hf : f ∈ s.flights) (he : f.endpoint = e) (hprobe : f.probe) : s.isAvailable e = false := by
  have hstate := state_record_of_state? hs
  have hprobing := hp.marked.mpr ⟨f, hf, he, hprobe⟩
  rw [isAvailable, Monitor.isAvailable_eq]
  simp only [HealthRecord.isAvailable, hstate, hprobing, Bool.not_true, Bool.false_and]

/-- **Probes exclude each other.**  At most one probe of an instance is in flight, and the
mark in its record says whether there is one.  If requests are sent to the instance only
while the monitor allows it, then while it is unhealthy at most one request that started
during the outage is in flight; that one is the probe, and until it ends no other request is
allowed. -/
theorem probes_exclusive (hc : Course (fresh settings network sink) h s) (e : Endpoint) :
    s.ProbedAlone e ∧
      (h.Routed e → s.monitor.state? e = some .unhealthy →
        (s.flights.filter (· ∈ (h.outage e).started e)).length ≤ 1 ∧
          ∀ f ∈ s.flights, f ∈ (h.outage e).started e →
            f.probe ∧ s.isAvailable e = false) := by
  have hp := probedAlone (probed_course hc e)
  refine ⟨hp, ?_⟩
  intro hr hs
  -- whatever started during the outage and is in flight is a probe, and there is one at most
  constructor
  · calc (s.flights.filter (· ∈ (h.outage e).started e)).length
      _ = s.flights.countP (· ∈ (h.outage e).started e) := List.countP_eq_length_filter.symm
      _ ≤ s.flights.countP fun f => f.endpoint = e ∧ f.probe := by
        refine List.countP_mono_left fun f _ hf => ?_
        exact decide_eq_true (probe_of_mem_outage hc hr (of_decide_eq_true hf))
      _ = (s.flights.filter fun f => f.endpoint = e ∧ f.probe).length :=
        List.countP_eq_length_filter
      _ ≤ 1 := hp.atMostOne
  · intro f hf hmem
    obtain ⟨he, hprobe⟩ := probe_of_mem_outage hc hr hmem
    exact ⟨hprobe, isAvailable_eq_false hp hs hf he hprobe⟩

/-- An instance recovers by an answer from before the outage and fails again while its probe
is in flight; a second probe starts only after the end of the first. -/
theorem probes_exclusive_of_second_outage :
    let slow : Behaviour := { latency := .ofMillis 40 }
    let s := fresh { unhealthyAfterFailures := 1, retryUnhealthyAfterMs := 5 }
      { behaviours := .ofList [("a", slow)] } .discarding
    let as : List Action := [.start "early" "a", .change "a" (.faulty true),
      .change "a" (.latency .zero), .send "a", .advance 5, .change "a" (.latency (.ofMillis 100)),
      .start "first" "a", .join "early", .change "a" (.latency .zero), .send "a", .join "first",
      .advance 5, .change "a" (.latency (.ofMillis 100)), .start "second" "a"]
    (s.run as).value.ProbedAlone "a" ∧
      (∃ f ∈ (s.run as).value.flights, f ∈ ((s.history as).outage "a").started "a") ∧
      ∀ f ∈ (s.run as).value.flights, f ∈ ((s.history as).outage "a").started "a" →
        f.probe ∧ (s.run as).value.isAvailable "a" = false := by
  intro slow s as
  have has : Course s (s.history as) (s.run as).value := course_history (orderly_fresh ..) as
  have hrouted : (s.history as).Routed "a" := by decide +kernel
  have hunhealthy : (s.run as).value.monitor.state? "a" = some .unhealthy := by decide +kernel
  obtain ⟨halone, houtage⟩ := probes_exclusive has "a"
  obtain ⟨-, hprobe⟩ := houtage hrouted hunhealthy
  refine ⟨halone, ?_, hprobe⟩
  decide +kernel

end Simulation
end PartitionRouting
