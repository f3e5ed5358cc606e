import PartitionRouting.Proofs.Simulation.Advance
import PartitionRouting.Proofs.Simulation.Station

/-!
# Instances do not influence each other

All instances share the clock, the table of records, the network, the counters and the
list of flights.  Still nothing that is done to other instances can be seen at an instance,
apart from the time that it takes: a run in which all of it is replaced by waiting shows
the same there.

The two runs are compared step by step.  The second one keeps just those flights of the
first that go to the instance, in the same order, and the same station; its clock lags
behind only while flights to other instances end.

## Main definitions

* `Simulation.Observation`, `Simulation.observation` — what can be seen of an instance.
* `Simulation.instance?` — the instance that an action concerns.
* `Simulation.alone`, `isolated` — actions with those on other instances replaced by waiting.
* `Simulation.Resembles`, `Mirrors` — one state holds the same of an instance as another, and
  no flight to any other instance; `Mirrors` at the same time.

## Main results

* `Simulation.mirrors_advanceTo` — an advance to the same time brings such states together.
* `Simulation.mirrors_alone` — **an action keeps them alike**, or what replaces it does.
* `Simulation.observation_isolated` — **what can be seen of an instance does not depend on
  what is done to others.**
-/

namespace PartitionRouting
namespace Simulation

variable {b e : Endpoint} {s t : Simulation} {f : Flight} {fs : List Flight}

/-! ### Observations -/

/-- What can be seen of an instance. -/
structure Observation where
  /-- The time. -/
  clock : Nat
  /-- The number of requests to it that are in flight. -/
  pending : Nat
  /-- What it is judged to be. -/
  state : Option HealthState
  /-- Whether a request may be routed to it. -/
  available : Bool
  /-- Its counters, unless nothing is counted. -/
  tally : Option Tally
  /-- How often the network was called for it. -/
  calls : Nat
  /-- The requests to it that have ended, in order, each with its times and its ending. -/
  landed : List Landing
  deriving DecidableEq

/-- What can be seen of an instance at present. -/
def observation (s : Simulation) (b : Endpoint) : Observation where
  clock := s.clock
  pending := s.monitor.pending b
  state := s.monitor.state? b
  available := s.isAvailable b
  tally := s.sink.tally? b
  calls := s.network.callCount b
  landed := s.landed.filter (·.flight.endpoint = b)

/-! ### Isolation -/

/-- The request of the given name, in flight or ended. -/
def request? (s : Simulation) (label : String) : Option Flight :=
  (s.inFlight? label).or ((s.landed? label).map Landing.flight)

/-- The instance that an action concerns, if any.  Who waits for a request or drops it
concerns the instance that the request was sent to. -/
def instance? (s : Simulation) : Action → Option Endpoint
  | .start _ e => some e
  | .send e => some e
  | .join label => (s.request? label).map Flight.endpoint
  | .cancel label => (s.request? label).map Flight.endpoint
  | .advance _ => none
  | .change e _ => some e

/-- The action, unless it concerns another instance than `b`; then waiting for the time
that it takes. -/
def alone (s : Simulation) (b : Endpoint) (a : Action) : Action :=
  if (s.instance? a).all (· = b) then a else .advance ((s.perform a).value.clock - s.clock)

/-- The actions with each of those that concern another instance than `b` replaced by
waiting for the time that it takes. -/
def isolated (s : Simulation) (b : Endpoint) : List Action → List Action
  | [] => []
  | a :: rest => s.alone b a :: (s.perform a).value.isolated b rest

theorem take_isolated (s : Simulation) (b : Endpoint) (as : List Action) (n : Nat) :
    (s.isolated b as).take n = s.isolated b (as.take n) := by
  induction as generalizing s n with
  | nil => simp [isolated]
  | cons a rest ih =>
    cases n with
    | zero => rfl
    | succ n => rw [isolated, List.take_succ_cons, List.take_succ_cons, isolated, ih]

/-! ### States that are alike -/

/-- `t` holds of `b` what `s` does, and no flight to another instance. -/
structure Resembles (b : Endpoint) (s t : Simulation) : Prop where
  /-- The thresholds are the same. -/
  settings : t.monitor.settings = s.monitor.settings
  /-- The station of the instance is the same. -/
  station : t.station b = s.station b
  /-- The instance behaves in the same way. -/
  behaviour : t.network.behaviour b = s.network.behaviour b
  /-- The flights are those to the instance. -/
  flights : t.flights = s.flights.filter (·.endpoint = b)
  /-- The requests to the instance that have ended are the same. -/
  landed : t.landed.filter (·.flight.endpoint = b) = s.landed.filter (·.flight.endpoint = b)

/-- `t` holds of `b` what `s` does, at the same time. -/
structure Mirrors (b : Endpoint) (s t : Simulation) : Prop extends Resembles b s t where
  /-- The clocks agree. -/
  clock : t.clock = s.clock

theorem Resembles.record (hr : Resembles b s t) : t.monitor.record b = s.monitor.record b :=
  congrArg Station.record hr.station

theorem Resembles.mem_records_iff (hr : Resembles b s t) :
    b ∈ t.monitor.records ↔ b ∈ s.monitor.records := by
  have hcontacted := congrArg Station.contacted hr.station
  rw [← Std.ExtTreeMap.contains_iff_mem, ← Std.ExtTreeMap.contains_iff_mem]
  exact Bool.eq_iff_iff.mp hcontacted

theorem Mirrors.orderly (hm : Mirrors b s t) (hs : s.Orderly) : t.Orderly where
  pairwise := by
    rw [hm.flights]
    exact hs.pairwise.filter _
  clock_le f hf := by
    rw [hm.flights] at hf
    rw [hm.clock]
    exact hs.clock_le f (List.mem_filter.mp hf).1
  contacted f hf := by
    rw [hm.flights] at hf
    obtain ⟨hf, he⟩ := List.mem_filter.mp hf
    have hrecord := hs.contacted f hf
    rw [of_decide_eq_true he] at hrecord ⊢
    exact hm.mem_records_iff.mpr hrecord

/-- Whoever holds the same of an instance shows the same. -/
theorem Mirrors.observation_eq (hm : Mirrors b s t) : t.observation b = s.observation b := by
  have hpending : t.monitor.pending b = s.monitor.pending b := by
    rw [t.pending_eq, s.pending_eq, hm.station]
  have hstate : t.monitor.state? b = s.monitor.state? b := by
    rw [t.state?_eq, s.state?_eq, hm.station]
  have havailable : t.isAvailable b = s.isAvailable b := by
    rw [isAvailable, isAvailable, Monitor.isAvailable_eq, Monitor.isAvailable_eq, hm.record,
      hm.settings, hm.clock]
  have htally : t.sink.tally? b = s.sink.tally? b := congrArg Station.tally hm.station
  have hcalls : t.network.callCount b = s.network.callCount b :=
    congrArg Station.calls hm.station
  rw [observation, observation, hm.clock, hpending, hstate, havailable, htally, hcalls,
    hm.landed]

/-! ### Starts -/

theorem Mirrors.newFlight_eq (hm : Mirrors b s t) (label : Option String) :
    t.newFlight label b = s.newFlight label b := by
  simp only [newFlight, Monitor.admitsProbe, hm.behaviour, hm.settings, hm.record, hm.clock]

theorem mirrors_depart (hm : Mirrors b s t) (hs : s.Orderly) (label : Option String) :
    Mirrors b (s.depart label b).value (t.depart label b).value where
  settings := hm.settings
  station := by
    rw [station_depart (hm.orderly hs), station_depart hs, hm.station, hm.newFlight_eq]
  behaviour := hm.behaviour
  flights := by
    show schedule (t.newFlight label b) t.flights =
      (schedule (s.newFlight label b) s.flights).filter (·.endpoint = b)
    have hself : decide ((s.newFlight label b).endpoint = b) = true := decide_eq_true rfl
    rw [filter_schedule hs.pairwise, if_pos hself, hm.newFlight_eq, hm.flights]
  landed := hm.landed
  clock := hm.clock

/-- A request to another instance starts unnoticed. -/
theorem mirrors_depart_of_ne (hm : Mirrors b s t) (hs : s.Orderly) (he : e ≠ b)
    (label : Option String) : Mirrors b (s.depart label e).value t where
  settings := hm.settings
  station := by rw [station_depart hs, if_neg he.symm, hm.station]
  behaviour := hm.behaviour
  flights := by
    show t.flights = (schedule (s.newFlight label e) s.flights).filter (·.endpoint = b)
    have hother : ¬decide ((s.newFlight label e).endpoint = b) = true := fun h =>
      he (of_decide_eq_true h)
    rw [filter_schedule hs.pairwise, if_neg hother, hm.flights]
  landed := hm.landed
  clock := hm.clock

/-! ### Ends -/

/-- Whether the time of a request can be counted depends on the time and on the counters of
its instance alone. -/
theorem Resembles.countable_eq (hr : Resembles b s t) (hclock : t.clock = s.clock)
    (he : f.endpoint = b) : t.countable f = s.countable f := by
  have htally : t.sink.tally? f.endpoint = s.sink.tally? f.endpoint := by
    rw [he]
    exact congrArg Station.tally hr.station
  rw [countable, countable, Bool.eq_iff_iff, Sink.accepts_measure_iff, Sink.accepts_measure_iff,
    htally, hclock]

theorem resembles_later (hr : Resembles b s t) (u v : Nat) :
    Resembles b (s.later u) (t.later v) :=
  ⟨hr.settings, hr.station, hr.behaviour, hr.flights, hr.landed⟩

theorem resembles_without (hr : Resembles b s t) (f : Flight) :
    Resembles b (s.without f) (t.without f) where
  settings := hr.settings
  station := by rw [station_without, station_without, hr.station]
  behaviour := hr.behaviour
  flights := by
    show t.flights.erase f = (s.flights.erase f).filter (·.endpoint = b)
    rw [hr.flights, List.erase_filter]
  landed := hr.landed

theorem Resembles.without_eq (hr : Resembles b s t) (he : f.endpoint ≠ b) : t.without f = t := by
  have hnot : f ∉ t.flights := by
    rw [hr.flights]
    exact fun hf => he (of_decide_eq_true (List.mem_filter.mp hf).2)
  rw [without, List.erase_of_not_mem hnot]

/-- A request to the instance ends in both states in the same way. -/
theorem mirrors_land (hm : Mirrors b s t) (he : f.endpoint = b)
    (hs : f.endpoint ∈ s.monitor.records) (hclock : s.clock = f.endsAt) :
    Mirrors b (s.land f f.ending).value (t.land f f.ending).value where
  settings := by rw [settings_land, settings_land, hm.settings]
  station := by
    have ht : f.endpoint ∈ t.monitor.records := by
      rw [he] at hs ⊢
      exact hm.mem_records_iff.mpr hs
    have hclock' : t.clock = f.endsAt := hm.clock.trans hclock
    -- the end depends on the clock and on the station, which are the same in both
    have hcountable := hm.countable_eq hm.clock he
    cases h : s.countable f with
    | true =>
      rw [station_land ht hclock' (hcountable.trans h), station_land hs hclock h, hm.station,
        hm.settings]
    | false =>
      rw [station_land_of_lost ht (hcountable.trans h), station_land_of_lost hs h, hm.station]
  behaviour := by rw [network_land, network_land, hm.behaviour]
  flights := by rw [flights_land, flights_land, hm.flights]
  landed := by
    rw [landed_land, landed_land, hm.countable_eq hm.clock he, hm.clock]
    split
    · rw [List.filter_append, List.filter_append, hm.landed]
    · exact hm.landed
  clock := by rw [clock_land, clock_land, hm.clock]

/-- A request to another instance ends unnoticed. -/
theorem resembles_land_of_ne (hr : Resembles b s t) (he : f.endpoint ≠ b)
    (hs : f.endpoint ∈ s.monitor.records) (hclock : s.clock = f.endsAt) :
    Resembles b (s.land f f.ending).value t where
  settings := by rw [settings_land, hr.settings]
  station := by
    cases h : s.countable f with
    | true => rw [station_land hs hclock h, if_neg he.symm, hr.station]
    | false => rw [station_land_of_lost hs h, if_neg he.symm, hr.station]
  behaviour := by rw [network_land, hr.behaviour]
  flights := by rw [flights_land, hr.flights]
  landed := by
    rw [landed_land, hr.landed]
    split
    · simp [he]
    · rfl

/-! ### Advances -/

theorem resembles_landUntil_of_forall_lt (hr : Resembles b s t) {u : Nat}
    (h : ∀ f ∈ s.flights, u < f.endsAt) :
    Resembles b (landUntil u s.flights s).value
      (landUntil u (s.flights.filter (·.endpoint = b)) t).value := by
  have h' : ∀ f ∈ s.flights.filter (·.endpoint = b), u < f.endsAt := fun f hf =>
    h f (List.mem_filter.mp hf).1
  rw [landUntil_of_forall_lt h, landUntil_of_forall_lt h', ← hr.flights]
  exact resembles_later hr u u

theorem resembles_landUntil (hr : Resembles b s t) (hs : s.Orderly) (hfs : s.flights = fs)
    (u : Nat) :
    Resembles b (landUntil u fs s).value (landUntil u (fs.filter (·.endpoint = b)) t).value := by
  -- over the flights of `s`, of which `t` has those to `b`
  induction fs generalizing s t with
  | nil => exact hfs ▸ resembles_landUntil_of_forall_lt hr (by rw [hfs]; exact nofun)
  | cons f rest ih =>
    have hfirst := hs.endsAt_le hfs
    by_cases hdue : f.endsAt ≤ u
    · have hf : f.endpoint ∈ s.monitor.records := hs.contacted f (by simp [hfs])
      have hwithout := without_eq_of_cons (s := s.later f.endsAt) hfs
      have hrest : (((s.later f.endsAt).without f).land f f.ending).value.flights = rest := by
        rw [flights_land, hwithout]
      have horderly := orderly_land (f := f) (x := f.ending) (orderly_later hs hfirst)
      rw [landUntil, if_pos hdue, ← hwithout, Logged.value_bind]
      by_cases he : f.endpoint = b
      -- the flight is the first one in both states
      · have hflights : t.flights = f :: rest.filter (·.endpoint = b) := by
          rw [hr.flights, hfs, List.filter_cons_of_pos (by simpa using he)]
        rw [List.filter_cons_of_pos (by simpa using he), landUntil, if_pos hdue,
          ← without_eq_of_cons (s := t.later f.endsAt) hflights, Logged.value_bind]
        have hdue' := resembles_without (resembles_later hr f.endsAt f.endsAt) f
        have hland := mirrors_land ⟨hdue', rfl⟩ he hf rfl
        exact ih hland.toResembles horderly hrest
      -- the other state does not have the flight, and its clock falls behind
      · have hbehind := resembles_without (resembles_later hr f.endsAt t.clock) f
        have hsame : (t.later t.clock).without f = t := hr.without_eq he
        rw [hsame] at hbehind
        rw [List.filter_cons_of_neg (by simpa using he)]
        exact ih (resembles_land_of_ne hbehind he hf rfl) horderly hrest
    · have hlate : ∀ g ∈ s.flights, u < g.endsAt := fun g hg =>
        Nat.lt_of_lt_of_le (Nat.lt_of_not_le hdue) (hfirst g hg)
      exact hfs ▸ resembles_landUntil_of_forall_lt hr hlate

/-- **An advance to the same time brings states together**, wherever their clocks were. -/
theorem mirrors_advanceTo (hr : Resembles b s t) (hs : s.Orderly) (u : Nat) :
    Mirrors b (s.advanceTo u).value (t.advanceTo u).value where
  toResembles := by
    rw [advanceTo, advanceTo, hr.flights]
    exact resembles_landUntil hr hs rfl u
  clock := by rw [clock_advanceTo, clock_advanceTo]

/-- Where nothing is due, the other state only has to wait. -/
theorem mirrors_of_settled (hr : Resembles b s t) (hs : s.Orderly) (hsettled : s.Settled) :
    Mirrors b s (t.advanceTo s.clock).value := by
  have hadvance := mirrors_advanceTo hr hs s.clock
  rwa [value_advanceTo_clock hsettled] at hadvance

/-! ### Drops and changes -/

theorem mirrors_drop (hm : Mirrors b s t) (hs : s.Orderly) (hf : f ∈ s.flights)
    (he : f.endpoint = b) : Mirrors b (s.drop f) (t.drop f) where
  settings := hm.settings
  station := by
    have hs' := hs.contacted f hf
    have ht' : f.endpoint ∈ t.monitor.records := by
      rw [he] at hs' ⊢
      exact hm.mem_records_iff.mpr hs'
    rw [station_drop ht', station_drop hs', hm.station]
  behaviour := hm.behaviour
  flights := (resembles_without hm.toResembles f).flights
  landed := hm.landed
  clock := hm.clock

/-- A request to another instance is dropped unnoticed. -/
theorem mirrors_drop_of_ne (hm : Mirrors b s t) (hs : s.Orderly) (hf : f ∈ s.flights)
    (he : f.endpoint ≠ b) : Mirrors b (s.drop f) t where
  settings := hm.settings
  station := by rw [station_drop (hs.contacted f hf), if_neg he.symm, hm.station]
  behaviour := hm.behaviour
  flights := by
    have hflights := (resembles_without hm.toResembles f).flights
    rwa [hm.without_eq he] at hflights
  landed := hm.landed
  clock := hm.clock

theorem mirrors_change (hm : Mirrors b s t) (c : BehaviourChange) :
    Mirrors b (s.change b c) (t.change b c) where
  settings := hm.settings
  station := hm.station
  behaviour := by
    show (t.network.change b c).behaviour b = (s.network.change b c).behaviour b
    rw [Network.behaviour_change, Network.behaviour_change, hm.behaviour]
  flights := hm.flights
  landed := hm.landed
  clock := hm.clock

/-- Another instance changes its behaviour unnoticed. -/
theorem mirrors_change_of_ne (hm : Mirrors b s t) (he : e ≠ b) (c : BehaviourChange) :
    Mirrors b (s.change e c) t where
  settings := hm.settings
  station := hm.station
  behaviour := by
    show t.network.behaviour b = (s.network.change e c).behaviour b
    rw [Network.behaviour_change, if_neg he.symm, hm.behaviour]
  flights := hm.flights
  landed := hm.landed
  clock := hm.clock

/-! ### Actions -/

theorem find?_filter_of_forall {p q : Flight → Bool} (h : ∀ f ∈ fs.find? q, p f) :
    (fs.filter p).find? q = fs.find? q := by
  induction fs with
  | nil => rfl
  | cons f rest ih =>
    by_cases hq : q f
    · rw [List.find?_cons_of_pos hq] at h ⊢
      rw [List.filter_cons_of_pos (h f rfl), List.find?_cons_of_pos hq]
    · rw [List.find?_cons_of_neg hq] at h ⊢
      rw [List.filter_cons]
      split
      · rw [List.find?_cons_of_neg hq, ih h]
      · exact ih h

/-- A name that stands for a request to `b`, or for none in flight, stands for the same in
both states. -/
theorem Resembles.inFlight?_eq (hr : Resembles b s t) {label : String}
    (h : ∀ f ∈ s.inFlight? label, f.endpoint = b) : t.inFlight? label = s.inFlight? label := by
  rw [inFlight?, hr.flights]
  exact find?_filter_of_forall fun f hf => decide_eq_true (h f hf)

theorem endpoint_eq_of_mem_inFlight? {label : String} (hf : f ∈ s.inFlight? label) :
    (s.request? label).map Flight.endpoint = some f.endpoint := by
  rw [request?, Option.mem_def.mp hf, Option.some_or, Option.map_some]

/-- An action that concerns no instance other than `b` has the same effect on both. -/
theorem mirrors_perform (hm : Mirrors b s t) (hs : s.Orderly) {a : Action}
    (ha : ∀ e ∈ s.instance? a, e = b) : Mirrors b (s.perform a).value (t.perform a).value := by
  cases a with
  | start label e =>
    obtain rfl : e = b := ha e rfl
    have hdepart := mirrors_depart hm hs (some label)
    rw [perform, perform, start, start, Logged.value_bind, Logged.value_bind, hdepart.clock]
    exact mirrors_advanceTo hdepart.toResembles (orderly_depart hs (some label) e) _
  | send e =>
    obtain rfl : e = b := ha e rfl
    have hdepart := mirrors_depart hm hs none
    rw [perform, perform, send, send, Logged.value_bind, Logged.value_bind, hm.newFlight_eq]
    exact mirrors_advanceTo hdepart.toResembles (orderly_depart hs none e) _
  | join label =>
    -- a request of this name is to `b`, and so it is in flight in both or in neither
    have hown : ∀ f ∈ s.inFlight? label, f.endpoint = b := fun f hf =>
      ha f.endpoint (endpoint_eq_of_mem_inFlight? hf)
    rw [perform, perform, join, join, hm.inFlight?_eq hown]
    cases s.inFlight? label with
    | none => exact hm
    | some f => exact mirrors_advanceTo hm.toResembles hs f.endsAt
  | cancel label =>
    have hown : ∀ f ∈ s.inFlight? label, f.endpoint = b := fun f hf =>
      ha f.endpoint (endpoint_eq_of_mem_inFlight? hf)
    rw [perform, perform, cancel, cancel, hm.inFlight?_eq hown]
    cases hf : s.inFlight? label with
    | none => exact hm
    | some f => exact mirrors_drop hm hs (inFlight?_mem hf) (hown f hf)
  | advance ms =>
    rw [perform, perform, advance, advance, hm.clock]
    exact mirrors_advanceTo hm.toResembles hs (s.clock + ms)
  | change e c =>
    obtain rfl : e = b := ha e rfl
    exact mirrors_change hm c

/-- An action that concerns another instance looks like waiting until it is over. -/
theorem mirrors_perform_of_ne (hm : Mirrors b s t) (hs : s.Orderly) (hsettled : s.Settled)
    {a : Action} (ha : s.instance? a = some e) (he : e ≠ b) :
    Mirrors b (s.perform a).value (t.advanceTo (s.perform a).value.clock).value := by
  -- what is done to another instance is time that passes for this one
  have hs' := orderly_perform hs a
  have hsettled' := settled_perform hs hsettled a
  cases a with
  | start label e' =>
    obtain rfl : e' = e := Option.some.inj ha
    have hdepart := mirrors_depart_of_ne hm hs he (some label)
    rw [perform, start, Logged.value_bind, clock_advanceTo]
    exact mirrors_advanceTo hdepart.toResembles (orderly_depart hs (some label) e') _
  | send e' =>
    obtain rfl : e' = e := Option.some.inj ha
    have hdepart := mirrors_depart_of_ne hm hs he none
    rw [perform, send, Logged.value_bind, clock_advanceTo]
    exact mirrors_advanceTo hdepart.toResembles (orderly_depart hs none e') _
  | join label =>
    cases hf : s.inFlight? label with
    | none =>
      rw [perform, join, hf]
      exact mirrors_of_settled hm.toResembles hs hsettled
    | some f =>
      simp only [perform, join, hf]
      rw [clock_advanceTo]
      exact mirrors_advanceTo hm.toResembles hs f.endsAt
  | cancel label =>
    have hresembles : Resembles b (s.cancel label) t := by
      rw [cancel]
      split
      · exact hm.toResembles
      · next f hf =>
        have hne : f.endpoint ≠ b := by
          have hf' := endpoint_eq_of_mem_inFlight? hf
          rw [instance?, hf'] at ha
          exact Option.some.inj ha ▸ he
        exact (mirrors_drop_of_ne hm hs (inFlight?_mem hf) hne).toResembles
    exact mirrors_of_settled hresembles hs' hsettled'
  | advance ms => contradiction
  | change e' c =>
    obtain rfl : e' = e := Option.some.inj ha
    have hchange := mirrors_change_of_ne hm he c
    exact mirrors_of_settled hchange.toResembles hs' hsettled'

/-- **An action keeps the states alike**, or what replaces it does. -/
theorem mirrors_alone (hm : Mirrors b s t) (hs : s.Orderly) (hsettled : s.Settled)
    (a : Action) : Mirrors b (s.perform a).value (t.perform (s.alone b a)).value := by
  unfold alone
  split
  · next ha =>
    refine mirrors_perform hm hs fun e he => ?_
    rw [Option.mem_def.mp he] at ha
    exact of_decide_eq_true ha
  · next ha =>
    cases he : s.instance? a with
    | none =>
      rw [he] at ha
      exact absurd rfl ha
    | some e =>
      rw [he] at ha
      -- in place of an action on another instance time passes to where it would end
      have hne : e ≠ b := fun h => ha (decide_eq_true h)
      have hclock :
          t.clock + ((s.perform a).value.clock - s.clock) = (s.perform a).value.clock := by
        have hle := clock_le_perform hs a
        have heq := hm.clock
        omega
      rw [perform, advance, hclock]
      exact mirrors_perform_of_ne hm hs hsettled he hne

/-! ### Runs -/

theorem mirrors_run (hm : Mirrors b s t) (hs : s.Orderly) (hsettled : s.Settled)
    (as : List Action) : Mirrors b (s.run as).value (t.run (s.isolated b as)).value := by
  induction as generalizing s t with
  | nil => exact hm
  | cons a rest ih =>
    have halone := mirrors_alone hm hs hsettled a
    exact ih halone (orderly_perform hs a) (settled_perform hs hsettled a)

theorem mirrors_fresh (settings : HealthSettings) (network : Network) (sink : Sink)
    (b : Endpoint) :
    Mirrors b (fresh settings network sink) (fresh settings network sink) :=
  ⟨⟨rfl, rfl, rfl, rfl, rfl⟩, rfl⟩

/-- **Instances do not influence each other.**  Whatever is done to the instances of a
network, an instance shows the same after each action as if all that concerned other
instances had been waiting: the same slots taken, the same judgement, availability, counters
and calls, and its own requests ended in the same ways at the same times. -/
theorem observation_isolated (settings : HealthSettings) (network : Network) (sink : Sink)
    (b : Endpoint) (as : List Action) (n : Nat) :
    let s := fresh settings network sink
    (s.run ((s.isolated b as).take n)).value.observation b =
      (s.run (as.take n)).value.observation b := by
  intro s
  have hs : s.Orderly := orderly_fresh settings network sink
  have hsettled : s.Settled := nofun
  have hmirrors : Mirrors b s s := mirrors_fresh settings network sink b
  rw [take_isolated]
  exact (mirrors_run hmirrors hs hsettled (as.take n)).observation_eq

example :
    let slow : Behaviour := { latency := .ofMillis 30 }
    let s := fresh {} { behaviours := .ofList [("a", slow), ("b", slow)] } (.counting {})
    s.isolated "b" [.start "x" "a", .start "y" "b", .join "x", .cancel "y", .send "a"] =
      [.advance 0, .start "y" "b", .advance 30, .cancel "y", .advance 30] := by
  decide +kernel

end Simulation
end PartitionRouting
