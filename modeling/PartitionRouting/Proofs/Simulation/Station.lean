import PartitionRouting.Proofs.Simulation.Course

/-!
# One instance of a simulation

What a simulation holds of one instance is its station: the health record, the flights
to it, the calls that the network counted, and the counters.  A step that concerns no
request to the instance leaves the station as it is, and any other step changes it in a
way that depends on the station alone.  Everything that is said of one instance over a
course is proved from this.

## Main definitions

* `Station`, `Simulation.station` — what is held of one instance.
* `Station.depart`, `land`, `drop` — its changes.
* `Station.Move` — what one step may do to the station of an instance.

## Main results

* `Simulation.station_step` — **a step is a move of every station.**
-/

namespace PartitionRouting

open Std

/-! ### Flights to one instance -/

theorem schedule_of_lt {f : Flight} {l : List Flight} (h : ∀ g ∈ l, f.endsAt < g.endsAt) :
    schedule f l = f :: l := by
  cases l with
  | nil => rfl
  | cons g rest =>
    have hg := h g List.mem_cons_self
    rw [schedule, if_neg (Nat.not_le_of_lt hg)]

/-- Picking out flights from a list ordered by end goes along with adding one. -/
theorem filter_schedule {p : Flight → Bool} {f : Flight} {l : List Flight}
    (h : l.Pairwise (·.endsAt ≤ ·.endsAt)) :
    (schedule f l).filter p = if p f then schedule f (l.filter p) else l.filter p := by
  induction l with
  | nil => cases hp : p f <;> simp [schedule, hp]
  | cons g rest ih =>
    obtain ⟨hg, hrest⟩ := List.pairwise_cons.mp h
    rw [schedule]
    split
    -- the new flight comes after the head, whether the head is picked or not
    · next hle =>
      cases hpg : p g with
      | true =>
        rw [List.filter_cons_of_pos hpg, List.filter_cons_of_pos hpg, ih hrest]
        split
        · rw [schedule, if_pos hle]
        · rfl
      | false =>
        have hneg : ¬p g = true := by simp [hpg]
        rw [List.filter_cons_of_neg hneg, List.filter_cons_of_neg hneg, ih hrest]
    -- the new flight comes first, and so it does among the picked ones
    · next hlt =>
      have hlate : ∀ x ∈ (g :: rest).filter p, f.endsAt < x.endsAt := by
        intro x hx
        rcases List.mem_cons.mp (List.mem_filter.mp hx).1 with rfl | hx
        · exact Nat.lt_of_not_le hlt
        · exact Nat.lt_of_lt_of_le (Nat.lt_of_not_le hlt) (hg x hx)
      rw [schedule_of_lt hlate, List.filter_cons]

/-! ### Stations -/

/-- What a simulation holds of one instance. -/
@[ext]
structure Station where
  /-- Whether it has a record. -/
  contacted : Bool := false
  /-- Its health record, a fresh one if it has none. -/
  record : HealthRecord := {}
  /-- The flights to it, ordered by end. -/
  flights : List Flight := []
  /-- The number of requests that were delivered to it. -/
  calls : Nat := 0
  /-- Its counters, unless nothing is counted. -/
  tally : Option Tally

namespace Station

/-- What is known of the instance once a request to it started. -/
def depart (st : Station) (f : Flight) : Station where
  contacted := true
  record := st.record.acquire f.probe
  flights := schedule f st.flights
  calls := st.calls + 1
  tally := st.tally.map (·.add .request)

/-- The health record once the verdict of a flight is known. -/
def judged (st : Station) (threshold : Nat) (f : Flight) : HealthRecord :=
  st.record.judge threshold f.endsAt f.ending.verdict

/-- What is counted of the instance when a flight ends. -/
def measures (st : Station) (threshold : Nat) (f : Flight) : List Measure :=
  .waited f.time :: f.ending.measure ::
    (st.record.moveTo? (st.judged threshold f)).toList.map .movedTo

/-- What is known of the instance once a flight ended and was accounted for. -/
def land (st : Station) (threshold : Nat) (f : Flight) : Station :=
  { st with
    record := (st.judged threshold f).release f.probe
    flights := st.flights.erase f
    tally := st.tally.map (·.addAll (st.measures threshold f)) }

/-- What is known of the instance once a flight was lost or dropped. -/
def drop (st : Station) (f : Flight) : Station :=
  { st with
    record := st.record.release f.probe
    flights := st.flights.erase f }

/-- **What one step may do to the station of `e`** at time `now`. -/
inductive Move (settings : HealthSettings) (now : Nat) (e : Endpoint) (st : Station) :
    Simulation.Occurrence → Station → Prop
  /-- No request to the instance is concerned. -/
  | other {o : Simulation.Occurrence} (ho : ∀ f, o.request? = some f → f.endpoint ≠ e) :
    Move settings now e st o st
  /-- A request starts, as a probe if the record admits one. -/
  | depart {f : Flight} (he : f.endpoint = e) (hstart : f.startedAt = now)
    (hprobe : f.probe = st.record.admitsProbe settings.retryAfter now) :
    Move settings now e st (.departed f) (st.depart f)
  /-- A request ends and is accounted for. -/
  | land {f : Flight} (he : f.endpoint = e) (hf : f ∈ st.flights) (hdue : now = f.endsAt)
    (htally : ∀ t ∈ st.tally, t.accepts (.waited f.time)) :
    Move settings now e st (.landed f) (st.land settings.threshold f)
  /-- A request ends and is lost. -/
  | lose {f : Flight} (he : f.endpoint = e) (hf : f ∈ st.flights) (hdue : now = f.endsAt)
    (htally : ∃ t ∈ st.tally, t.accepts (.waited f.time) = false) :
    Move settings now e st (.lost f) (st.drop f)
  /-- A request is dropped. -/
  | drop {f : Flight} (he : f.endpoint = e) (hf : f ∈ st.flights) :
    Move settings now e st (.dropped f) (st.drop f)

end Station

namespace Simulation

/-- What a simulation holds of one instance. -/
def station (s : Simulation) (e : Endpoint) : Station where
  contacted := s.monitor.records.contains e
  record := s.monitor.record e
  flights := s.flights.filter (·.endpoint = e)
  calls := s.network.callCount e
  tally := s.sink.tally? e

theorem mem_flights_station {s : Simulation} {e : Endpoint} {f : Flight} :
    f ∈ (s.station e).flights ↔ f ∈ s.flights ∧ f.endpoint = e := by
  simp [station]

theorem pending_eq (s : Simulation) (e : Endpoint) :
    s.monitor.pending e = (s.station e).record.pending := s.monitor.pending_eq e

theorem state?_eq (s : Simulation) (e : Endpoint) :
    s.monitor.state? e =
      if (s.station e).contacted then some (s.station e).record.state else none := by
  rw [Monitor.state?_eq]
  rfl

/-! ### Stations of a step -/

theorem contains_records_update (m : Monitor) (e a : Endpoint)
    (f : HealthRecord → HealthRecord) :
    (m.update e f).records.contains a = (a == e || m.records.contains a) := by
  rw [Bool.eq_iff_iff, ExtTreeMap.contains_iff_mem, Monitor.mem_records_update]
  simp

theorem tally?_request (s : Sink) (e a : Endpoint) :
    (s.record (.measure e .request)).value.tally? a =
      if a = e then (s.tally? a).map (·.add .request) else s.tally? a := by
  have hrequest : s.accepts (.measure e .request) :=
    (s.accepts_measure_iff e .request).mpr fun _ _ => rfl
  have hnone : ∀ m ∈ ([] : List Measure), ∀ d, m ≠ .waited d := nofun
  exact Sink.tally?_recordAll hrequest hnone a

theorem station_depart {s : Simulation} (hs : s.Orderly) (label : Option String)
    (e a : Endpoint) :
    (s.depart label e).value.station a =
      if a = e then (s.station a).depart (s.newFlight label e) else s.station a := by
  have hrecords := contains_records_update s.monitor e a
    (·.acquire (s.newFlight label e).probe)
  have hrecord := record_depart s label e a
  have hflights := filter_schedule (p := (·.endpoint = a)) (f := s.newFlight label e) hs.pairwise
  have hcalls := Network.callCount_call s.network e a
  have htally := tally?_request s.sink e a
  split
  · next ha =>
    subst ha
    refine Station.ext (hrecords.trans ?_) (hrecord.trans (if_pos rfl))
      (hflights.trans (if_pos ?_)) (hcalls.trans (if_pos rfl)) (htally.trans (if_pos rfl))
    · simp [Station.depart]
    · exact decide_eq_true rfl
  · next ha =>
    refine Station.ext (hrecords.trans ?_) (hrecord.trans (if_neg ha))
      (hflights.trans (if_neg ?_)) (hcalls.trans (if_neg ha)) (htally.trans (if_neg ha))
    · simp [ha, station]
    · exact fun h => ha (of_decide_eq_true h).symm

/-- Taking a flight out of the list takes it from its own instance alone. -/
theorem station_without (s : Simulation) (f : Flight) (a : Endpoint) :
    (s.without f).station a =
      if a = f.endpoint then { s.station a with flights := (s.station a).flights.erase f }
      else s.station a := by
  have hflights : (s.flights.erase f).filter (·.endpoint = a) =
      (s.flights.filter (·.endpoint = a)).erase f := (List.erase_filter ..).symm
  split
  · exact Station.ext rfl rfl hflights rfl rfl
  · next ha =>
    have hnot : f ∉ s.flights.filter (·.endpoint = a) := fun hf => by
      simp only [List.mem_filter, decide_eq_true_eq] at hf
      exact ha hf.2.symm
    exact Station.ext rfl rfl (hflights.trans (List.erase_of_not_mem hnot)) rfl rfl

theorem contains_update_of_mem {m : Monitor} {e : Endpoint} (he : e ∈ m.records) (a : Endpoint)
    (f : HealthRecord → HealthRecord) :
    (m.update e f).records.contains a = m.records.contains a := by
  rw [contains_records_update]
  by_cases ha : a = e
  · rw [ha, ExtTreeMap.contains_iff_mem.mpr he, Bool.or_true]
  · simp [ha]

/-- How a flight ended and where its instance moved can be counted in any case. -/
theorem forall_ne_waited (x : Ending) (moved : Option HealthState) :
    ∀ m ∈ x.measure :: moved.toList.map .movedTo, ∀ d, m ≠ .waited d := by
  intro m hm d
  rcases List.mem_cons.mp hm with rfl | hm
  · cases x <;> exact nofun
  · obtain ⟨state, -, rfl⟩ := List.mem_map.mp hm
    exact nofun

theorem tally?_measuresOf {s : Simulation} {f : Flight} {x : Ending} (h : s.countable f)
    (a : Endpoint) :
    (s.sink.recordAll ((s.measuresOf f x).map (.measure f.endpoint))).value.tally? a =
      if a = f.endpoint then (s.sink.tally? a).map (·.addAll (s.measuresOf f x))
      else s.sink.tally? a :=
  Sink.tally?_recordAll h (forall_ne_waited x (s.movedBy f x)) a

theorem countable_eq {s : Simulation} {f : Flight} (hclock : s.clock = f.endsAt) :
    s.countable f = s.sink.accepts (.measure f.endpoint (.waited f.time)) := by
  rw [countable, hclock]
  rfl

theorem measuresOf_eq {s : Simulation} {f : Flight} (hclock : s.clock = f.endsAt) :
    s.measuresOf f f.ending =
      (s.station f.endpoint).measures s.monitor.settings.threshold f := by
  rw [measuresOf, movedBy, hclock]
  rfl

/-- An end that is accounted for changes the record and the counters of its own instance
alone. -/
theorem station_land {s : Simulation} {f : Flight} (he : f.endpoint ∈ s.monitor.records)
    (hclock : s.clock = f.endsAt) (h : s.countable f) (a : Endpoint) :
    (s.land f f.ending).value.station a =
      if a = f.endpoint then
        { s.station a with
          record := ((s.station a).judged s.monitor.settings.threshold f).release f.probe
          tally := (s.station a).tally.map
            (·.addAll ((s.station a).measures s.monitor.settings.threshold f)) }
      else s.station a := by
  have hrecord := record_land (x := f.ending) h a
  have htally := tally?_measuresOf (x := f.ending) h a
  -- the record is written twice, first for the verdict and then for the slot
  have hrecords := (contains_update_of_mem (Monitor.mem_records_update.mpr (Or.inl rfl)) a
    (·.release f.probe)).trans (contains_update_of_mem he a fun _ =>
      (s.monitor.record f.endpoint).judge s.monitor.settings.threshold f.endsAt f.ending.verdict)
  rw [value_land h, hclock] at hrecord ⊢
  rw [measuresOf_eq hclock] at htally ⊢
  split
  · next ha =>
    subst ha
    exact Station.ext hrecords (hrecord.trans (if_pos rfl)) rfl rfl (htally.trans (if_pos rfl))
  · next ha =>
    exact Station.ext hrecords (hrecord.trans (if_neg ha)) rfl rfl (htally.trans (if_neg ha))

/-- An end that is lost changes the record of its own instance alone. -/
theorem station_land_of_lost {s : Simulation} {f : Flight} {x : Ending}
    (he : f.endpoint ∈ s.monitor.records) (h : s.countable f = false) (a : Endpoint) :
    (s.land f x).value.station a =
      if a = f.endpoint then { s.station a with record := (s.station a).record.release f.probe }
      else s.station a := by
  have hrecord := record_land_of_lost (x := x) h a
  have htally := Sink.tally?_record_of_refused h a
  have hrecords := contains_update_of_mem he a (·.release f.probe)
  rw [value_land_of_lost h] at hrecord ⊢
  split
  · next ha =>
    subst ha
    exact Station.ext hrecords (hrecord.trans (if_pos rfl)) rfl rfl htally
  · next ha => exact Station.ext hrecords (hrecord.trans (if_neg ha)) rfl rfl htally

/-- A dropped request changes the station of its own instance alone. -/
theorem station_drop {s : Simulation} {f : Flight} (he : f.endpoint ∈ s.monitor.records)
    (a : Endpoint) :
    (s.drop f).station a = if a = f.endpoint then (s.station a).drop f else s.station a := by
  have hrecord := record_drop s f a
  have hrecords := contains_update_of_mem he a (·.release f.probe)
  have hflights := congrArg Station.flights (station_without s f a)
  split
  · next ha =>
    subst ha
    rw [if_pos rfl] at hflights
    exact Station.ext hrecords (hrecord.trans (if_pos rfl)) hflights rfl rfl
  · next ha =>
    rw [if_neg ha] at hflights
    exact Station.ext hrecords (hrecord.trans (if_neg ha)) hflights rfl rfl

theorem other_of_ne {settings : HealthSettings} {now : Nat} {e : Endpoint} {st : Station}
    {o : Occurrence} {f : Flight} (ho : o.request? = some f) (he : ¬e = f.endpoint) :
    Station.Move settings now e st o st :=
  .other fun g hg => by
    rw [ho] at hg
    exact Option.some.inj hg ▸ fun h => he h.symm

/-- **A step is a move of every station**: nothing happens at the stations that it does not
concern, and what happens at the one that it concerns depends on that station alone. -/
theorem station_step {s s' : Simulation} {o : Occurrence} (hstep : Step s o s')
    (hs : s.Orderly) (e : Endpoint) :
    Station.Move s.monitor.settings s.clock e (s.station e) o (s'.station e) := by
  -- each step concerns the instance of one request, which is `e` or another
  cases hstep with
  | depart label a =>
    rw [station_depart hs]
    split
    · next ha =>
      subst ha
      exact .depart rfl rfl rfl
    · next ha => exact other_of_ne rfl ha
  | @land f x hf hpoll h =>
    obtain ⟨hclock, rfl⟩ := hs.due hf hpoll
    have hstation := station_land (s := s.without f) (hs.contacted f hf) hclock h e
    rw [hstation, station_without]
    split
    · next ha =>
      subst ha
      rw [countable_eq hclock] at h
      exact .land rfl (mem_flights_station.mpr ⟨hf, rfl⟩) hclock
        ((s.sink.accepts_measure_iff f.endpoint _).mp h)
    · next ha => exact other_of_ne rfl ha
  | @lose f x hf hpoll h =>
    obtain ⟨hclock, -⟩ := hs.due hf hpoll
    have hstation := station_land_of_lost (s := s.without f) (x := x) (hs.contacted f hf) h e
    rw [hstation, station_without]
    split
    · next ha =>
      subst ha
      rw [countable_eq hclock] at h
      exact .lose rfl (mem_flights_station.mpr ⟨hf, rfl⟩) hclock
        ((s.sink.refuses_measure_iff f.endpoint _).mp h)
    · next ha => exact other_of_ne rfl ha
  | @drop f hf =>
    rw [station_drop (hs.contacted f hf)]
    split
    · next ha =>
      subst ha
      exact .drop rfl (mem_flights_station.mpr ⟨hf, rfl⟩)
    · next ha => exact other_of_ne rfl ha
  | wait _ _ => exact .other nofun
  | change a c => exact .other nofun

/-- **What every move keeps up holds along every course.** -/
theorem station_course {s₀ s : Simulation} {h : History} {e : Endpoint}
    {P : History → Station → Prop} (hs₀ : s₀.Orderly) (hstart : P [] (s₀.station e))
    (hmove : ∀ {h s o st'}, Course s₀ h s →
      Station.Move s₀.monitor.settings s.clock e (s.station e) o st' →
      P h (s.station e) → P (h ++ [⟨s, o⟩]) st')
    (hc : Course s₀ h s) : P h (s.station e) := by
  -- the flights stay in order on the way, so every step is a move
  induction hc with
  | start => exact hstart
  | step hc hstep ih =>
    have hmoved := station_step hstep (orderly_course hc hs₀) e
    rw [settings_course hc] at hmoved
    exact hmove hc hmoved ih

end Simulation
end PartitionRouting
