import PartitionRouting.Proofs.Counters.Tally
import PartitionRouting.Simulation.Basic

/-!
# What a request does to the state

A request changes the state when it starts, when it is accounted for at its end, when
it is lost, and when it is dropped.  The two ways to end are written out here as one
equation each, and the effect of every change on a health record and on the counters is
read off.

## Main definitions

* `Sink.tally?` — the counters of an instance, unless recordings are dropped.
* `Simulation.countable` — whether the time that a flight took can be counted.
* `Simulation.measuresOf` — what is counted when a flight ends.

## Main results

* `Simulation.value_land`, `value_land_of_lost` — the state after an end.
* `Simulation.record_depart`, `record_land`, `record_land_of_lost`, `record_drop` — the
  health records.
* `Counters.tally_addAll`, `Sink.tally?_recordAll` — the counters of an instance after a
  series of measures.
-/

namespace PartitionRouting

open Std

/-! ### Counters -/

namespace Counters

/-- The counters after a series of measures of one instance, all but the first of which
can be added in any case. -/
theorem tally_addAll (c : Counters) (e a : Endpoint) (m : Measure) (ms : List Measure)
    (hm : (c.tally e).accepts m) (hms : ∀ m' ∈ ms, ∀ d, m' ≠ .waited d) :
    (((m :: ms).map (Recording.measure e)).foldl add c).tally a =
      if a = e then (c.tally e).addAll (m :: ms) else c.tally a := by
  induction ms generalizing c m with
  | nil => simp [tally_add_measure, hm, Tally.addAll]
  | cons m' rest ih =>
    -- the first measure was accepted, and the second is not a time
    have hm' := Tally.accepts_of_forall_ne_waited (hms m' List.mem_cons_self)
    have hrest := ih (c.add (.measure e m)) m' (hm' _)
      fun x hx => hms x (List.mem_cons_of_mem m' hx)
    rw [List.map_cons, List.foldl_cons, hrest, tally_add_measure, tally_add_measure]
    split
    · simp [hm, Tally.addAll]
    · next h => simp [h]

end Counters

namespace Sink

/-- The counters of an instance, unless recordings are dropped. -/
def tally? : Sink → Endpoint → Option Tally
  | discarding, _ => none
  | counting c, e => some (c.tally e)

theorem accepts_measure_iff (s : Sink) (e : Endpoint) (m : Measure) :
    s.accepts (.measure e m) ↔ ∀ t ∈ s.tally? e, t.accepts m := by
  cases s with
  | discarding => simp [accepts, tally?]
  | counting c => simp [accepts, tally?, Counters.accepts]

theorem refuses_measure_iff (s : Sink) (e : Endpoint) (m : Measure) :
    s.accepts (.measure e m) = false ↔ ∃ t ∈ s.tally? e, t.accepts m = false := by
  cases s with
  | discarding => simp [accepts, tally?]
  | counting c => simp [accepts, tally?, Counters.accepts]

theorem value_recordAll_counting (c : Counters) (rs : List Recording) :
    ((counting c).recordAll rs).value = counting (rs.foldl Counters.add c) := by
  induction rs generalizing c with
  | nil => rfl
  | cons r rest ih => exact ih (c.add r)

/-- A series of measures of one instance, all but the first of which can be added in any
case, is counted for that instance alone. -/
theorem tally?_recordAll {s : Sink} {e : Endpoint} {m : Measure} {ms : List Measure}
    (hm : s.accepts (.measure e m)) (hms : ∀ m' ∈ ms, ∀ d, m' ≠ .waited d) (a : Endpoint) :
    (s.recordAll ((m :: ms).map (.measure e))).value.tally? a =
      if a = e then (s.tally? a).map (·.addAll (m :: ms)) else s.tally? a := by
  cases s with
  | discarding =>
    have hvalue : ∀ rs, (discarding.recordAll rs).value = discarding := by
      intro rs
      induction rs with
      | nil => rfl
      | cons r rest ih => exact ih
    rw [hvalue]
    simp [tally?]
  | counting c =>
    rw [value_recordAll_counting, tally?, tally?, Counters.tally_addAll c e a m ms hm hms]
    split
    · next h => rw [h, Option.map_some]
    · rfl

/-- What cannot be counted changes no counter. -/
theorem tally?_record_of_refused {s : Sink} {e : Endpoint} {m : Measure}
    (h : s.accepts (.measure e m) = false) (a : Endpoint) :
    (s.record (.measure e m)).value.tally? a = s.tally? a := by
  cases s with
  | discarding => rfl
  | counting c =>
    have hc : (c.tally e).accepts m = false := h
    refine congrArg some ((c.tally_add_measure e a m).trans ?_)
    simp [hc]

end Sink

/-! ### Health records -/

namespace Monitor

theorem pending_eq (m : Monitor) (e : Endpoint) : m.pending e = (m.record e).pending := by
  rw [pending, record]
  cases m.records[e]? <;> rfl

/-- An instance without a record is as available as one with a fresh record. -/
theorem isAvailable_eq (m : Monitor) (now : Nat) (e : Endpoint) :
    m.isAvailable now e = (m.record e).isAvailable m.settings.retryAfter now := by
  rw [isAvailable, record]
  cases m.records[e]? <;> rfl

theorem state?_eq (m : Monitor) (e : Endpoint) :
    m.state? e = if e ∈ m.records then some (m.record e).state else none := by
  rw [state?, record]
  by_cases h : e ∈ m.records
  · rw [if_pos h, ExtTreeMap.getElem?_eq_some_getElem h]
    rfl
  · rw [if_neg h, ExtTreeMap.getElem?_eq_none h]
    rfl

theorem mem_records_update {m : Monitor} {e a : Endpoint} {f : HealthRecord → HealthRecord} :
    a ∈ (m.update e f).records ↔ a = e ∨ a ∈ m.records := by
  rw [ExtTreeMap.mem_iff_isSome_getElem?, getElem?_records_update,
    ExtTreeMap.mem_iff_isSome_getElem?]
  split <;> simp_all

theorem record_release (m : Monitor) (e a : Endpoint) (probe : Bool) :
    (m.release e probe).record a = if a = e then (m.record e).release probe else m.record a :=
  record_update m e _ a

end Monitor

namespace Simulation

/-! ### A start -/

theorem record_depart (s : Simulation) (label : Option String) (e a : Endpoint) :
    (s.depart label e).value.monitor.record a =
      if a = e then (s.monitor.record e).acquire (s.newFlight label e).probe
      else s.monitor.record a :=
  Monitor.record_update s.monitor e _ a

/-! ### An end -/

variable {s : Simulation} {f : Flight} {x : Ending}

/-- The state that an instance moves to when a flight ends at present, if it moves. -/
def movedBy (s : Simulation) (f : Flight) (x : Ending) : Option HealthState :=
  (s.monitor.judge s.clock f.endpoint x.verdict).value.1

/-- What is counted of the instance of a flight when the flight ends at present. -/
def measuresOf (s : Simulation) (f : Flight) (x : Ending) : List Measure :=
  .waited (f.elapsed s.clock) :: x.measure :: (s.movedBy f x).toList.map .movedTo

/-- Whether the time that a flight has taken can be counted at present. -/
def countable (s : Simulation) (f : Flight) : Bool :=
  s.sink.accepts (.measure f.endpoint (.waited (f.elapsed s.clock)))

theorem value_land (h : s.countable f) :
    (s.land f x).value =
      { s with
        sink := (s.sink.recordAll ((s.measuresOf f x).map (.measure f.endpoint))).value
        monitor :=
          (s.monitor.judge s.clock f.endpoint x.verdict).value.2.release f.endpoint f.probe
        landed := s.landed ++ [⟨f, s.clock, x⟩] } := by
  have hcounted : s.sink.accepts (.measure f.endpoint (.waited (f.elapsed s.clock))) = true := h
  simp only [land, Logged.value_bind, measuresOf, List.map_cons, List.map_map]
  rw [if_pos hcounted]
  rfl

theorem value_land_of_lost (h : s.countable f = false) :
    (s.land f x).value =
      { s with
        sink := (s.sink.record (.measure f.endpoint (.waited (f.elapsed s.clock)))).value
        monitor := s.monitor.release f.endpoint f.probe } := by
  have hlost : ¬s.sink.accepts (.measure f.endpoint (.waited (f.elapsed s.clock))) = true :=
    Bool.eq_false_iff.mp h
  simp only [land, Logged.value_bind]
  rw [if_neg hlost]
  rfl

theorem record_land (h : s.countable f) (a : Endpoint) :
    (s.land f x).value.monitor.record a =
      if a = f.endpoint then
        ((s.monitor.record f.endpoint).judge s.monitor.settings.threshold s.clock
          x.verdict).release f.probe
      else s.monitor.record a := by
  rw [value_land h]
  simp only [Monitor.record_release, Monitor.judge, Monitor.record_update]
  split
  · simp
  · rfl

theorem record_land_of_lost (h : s.countable f = false) (a : Endpoint) :
    (s.land f x).value.monitor.record a =
      if a = f.endpoint then (s.monitor.record f.endpoint).release f.probe
      else s.monitor.record a := by
  rw [value_land_of_lost h]
  exact Monitor.record_release s.monitor f.endpoint a f.probe

theorem record_drop (s : Simulation) (f : Flight) (a : Endpoint) :
    (s.drop f).monitor.record a =
      if a = f.endpoint then (s.monitor.record f.endpoint).release f.probe
      else s.monitor.record a :=
  Monitor.record_release s.monitor f.endpoint a f.probe

end Simulation
end PartitionRouting
