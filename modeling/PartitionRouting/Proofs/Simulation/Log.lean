import PartitionRouting.Proofs.Simulation.Course

/-!
# The log of a course

The events of a list of actions are those of its history: whatever happens is reported at
the moment at which it happens, and what is reported depends on the state at that moment
alone.  So the log of a course can be said moment by moment.

## Main definitions

* `Simulation.Moment.events`, `Simulation.History.events` — what a moment and a history are
  reported as.

## Main results

* `Simulation.mem_events_depart`, `exists_events_land`, `eq_of_mem_events_land_of_lost` — what
  the start and the end of a request are reported as.
* `Simulation.events_history` — **the events of a run are those of its history.**
-/

namespace PartitionRouting

/-! ### Counting -/

namespace Sink

/-- Nothing is reported of a recording but that the counters are damaged. -/
theorem eq_of_mem_events_record {s : Sink} {r : Recording} {x : Event}
    (hx : x ∈ (s.record r).events) : x = .countersDamaged := by
  cases s with
  | discarding => contradiction
  | counting c =>
    rw [record, Logged.events_map, Counters.record, Logged.events_bind, Counters.touch] at hx
    split at hx
    · simpa using hx
    · simp at hx

theorem eq_of_mem_events_recordAll {s : Sink} {rs : List Recording} {x : Event}
    (hx : x ∈ (s.recordAll rs).events) : x = .countersDamaged := by
  induction rs generalizing s with
  | nil => contradiction
  | cons r rest ih =>
    rw [recordAll, List.foldlM_cons, Logged.events_bind] at hx
    rcases List.mem_append.mp hx with hx | hx
    · exact eq_of_mem_events_record hx
    · exact ih hx

end Sink

namespace Simulation

variable {s : Simulation} {f : Flight} {found : Ending} {x : Event}

/-! ### Requests -/

/-- What the start of a request is reported as. -/
theorem mem_events_depart {label : Option String} {e : Endpoint}
    (hx : x ∈ (s.depart label e).events) :
    x = .tracking e ∨ x = .probing e ∨ x = .countersDamaged := by
  rw [depart, Logged.events_bind, Logged.events_bind] at hx
  rcases List.mem_append.mp hx with hx | hx
  · rcases List.mem_append.mp hx with hx | hx
    · split at hx
      · contradiction
      · exact Or.inl (List.mem_singleton.mp hx)
    · split at hx
      · exact Or.inr (Or.inl (List.mem_singleton.mp hx))
      · contradiction
  · rcases List.mem_append.mp hx with hx | hx
    · exact Or.inr (Or.inr (Sink.eq_of_mem_events_record hx))
    · contradiction

/-- An end that is accounted for is reported with what becomes of the judgement of the
instance in the middle. -/
theorem exists_events_land (h : s.countable f) :
    ∃ before after,
      (s.land f found).events = before ++
        (s.monitor.judge s.clock f.endpoint found.verdict).events ++ after ∧
      (∀ x ∈ before, x = .countersDamaged ∨ x ∈ found.events f.endpoint) ∧
      ∀ x ∈ after, x = .countersDamaged := by
  have hcounted : s.sink.accepts (.measure f.endpoint (.waited (f.elapsed s.clock))) = true := h
  let waited := s.sink.record (.measure f.endpoint (.waited (f.elapsed s.clock)))
  let ended := waited.value.record (.measure f.endpoint found.measure)
  let moved := ended.value.recordAll
    ((s.movedBy f found).toList.map fun m => .measure f.endpoint (.movedTo m))
  refine ⟨waited.events ++ (found.events f.endpoint ++ ended.events), moved.events, ?_, ?_, ?_⟩
  · simp only [land, Logged.events_bind]
    rw [if_pos hcounted]
    simp only [Logged.events_bind, Logged.events_emitAll, Logged.events_pure, List.append_nil,
      List.append_assoc]
    rfl
  -- around the judgement there is the ending itself and what the counters say
  · intro x hx
    rcases List.mem_append.mp hx with hx | hx
    · exact Or.inl (Sink.eq_of_mem_events_record hx)
    · rcases List.mem_append.mp hx with hx | hx
      · exact Or.inr hx
      · exact Or.inl (Sink.eq_of_mem_events_record hx)
  · intro x hx
    exact Sink.eq_of_mem_events_recordAll hx

/-- An end that is lost is reported by no more than that the counters are damaged. -/
theorem eq_of_mem_events_land_of_lost (h : s.countable f = false)
    (hx : x ∈ (s.land f found).events) : x = .countersDamaged := by
  have hlost : ¬s.sink.accepts (.measure f.endpoint (.waited (f.elapsed s.clock))) = true :=
    Bool.eq_false_iff.mp h
  rw [land, Logged.events_bind, if_neg hlost, Logged.events_pure, List.append_nil] at hx
  exact Sink.eq_of_mem_events_record hx

/-! ### Histories -/

/-- What the poll of a flight is reported as. -/
def pollEvents (s : Simulation) (f : Flight) : List Event :=
  (f.poll s.clock).elim [] fun found => ((s.without f).land f found).events

theorem pollEvents_eq (hpoll : f.poll s.clock = some found) :
    s.pollEvents f = ((s.without f).land f found).events := by
  rw [pollEvents, hpoll, Option.elim_some]

/-- Whatever is true of no events and of those of every end is true of those of a poll. -/
theorem pollEvents_induction {P : List Event → Prop} (hnothing : P [])
    (hland : ∀ found, P ((s.without f).land f found).events) : P (s.pollEvents f) := by
  rw [pollEvents]
  cases f.poll s.clock with
  | none => exact hnothing
  | some found => exact hland found

/-- What a moment is reported as. -/
def Moment.events (m : Moment) : List Event :=
  match m.what with
  | .departed f => (m.before.depart f.label f.endpoint).events
  | .landed f => m.before.pollEvents f
  | .lost f => m.before.pollEvents f
  | _ => []

namespace History

/-- What a history is reported as. -/
def events (h : History) : List Event := h.flatMap Moment.events

theorem events_append (h h' : History) : events (h ++ h') = events h ++ events h' :=
  List.flatMap_append

theorem events_concat (h : History) (m : Moment) : events (h ++ [m]) = events h ++ m.events := by
  rw [events_append, events, events, List.flatMap_singleton]

end History

theorem events_landings {t : Nat} {fs : List Flight} (hfs : s.flights = fs) :
    History.events (landings t fs s) = (landUntil t fs s).events := by
  induction fs generalizing s with
  | nil => rfl
  | cons f rest ih =>
    unfold landings landUntil
    split
    -- time that passes is not reported
    · have hrest := ih (flights_land (s := { s.later f.endsAt with flights := rest }) (f := f)
        (x := f.ending))
      have hend := pollEvents_eq (s := s.later f.endsAt) f.poll_endsAt
      rw [without_eq_of_cons (s := s.later f.endsAt) hfs] at hend
      rw [Logged.events_bind, ← hrest, ← hend]
      cases (s.later f.endsAt).countable f <;> rfl
    · rfl

/-- What happens during an action is what is reported of it. -/
theorem events_historyOf (s : Simulation) (a : Action) :
    History.events (s.historyOf a) = (s.perform a).events := by
  cases a with
  | start label e =>
    have hlandings := events_landings (t := (s.depart (some label) e).value.clock)
      (rfl : (s.depart (some label) e).value.flights = _)
    exact congrArg ((s.depart (some label) e).events ++ ·) hlandings
  | send e =>
    have hlandings := events_landings (t := (s.newFlight none e).endsAt)
      (rfl : (s.depart none e).value.flights = _)
    exact congrArg ((s.depart none e).events ++ ·) hlandings
  | join label =>
    rw [historyOf, perform, join]
    cases s.inFlight? label with
    | none => rfl
    | some f => exact events_landings rfl
  | cancel label =>
    rw [historyOf]
    cases s.inFlight? label <;> rfl
  | advance ms => exact events_landings rfl
  | change e c => rfl

/-- **The events of a run are those of its history.** -/
theorem events_history (s : Simulation) (as : List Action) :
    (s.history as).events = (s.run as).events := by
  induction as generalizing s with
  | nil => rfl
  | cons a rest ih =>
    rw [history, History.events_append, events_historyOf, ih]
    rfl

end Simulation
end PartitionRouting
