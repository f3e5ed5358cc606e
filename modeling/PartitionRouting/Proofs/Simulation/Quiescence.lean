import Mathlib.Data.List.TakeWhile
import PartitionRouting.Proofs.Simulation.Accounting
import PartitionRouting.Proofs.Simulation.Advance
import PartitionRouting.Proofs.Simulation.Availability

/-!
# A simulation comes to rest

Once no more requests start, every request ends within the time that one may take, and
with it the last failure that an instance can have.  So the slots and the probes are given
back by then, and one window later every instance is available again, whatever happened
before and whatever happens to the requests that are still in flight.

## Main definitions

* `History.Quiet` — no request started.
* `Simulation.DueBy` — every request in flight ends by a given time.
* `Simulation.Idle` — nothing is in flight, no slot is taken and no probe is marked.

## Main results

* `Simulation.dueBy_course` — **every request in flight ends within the timeout.**
* `Simulation.dueBy_of_quiet` — while no request starts, none fails later than that.
* `Simulation.comes_to_rest` — **no instance keeps a slot or a probe, or stays unavailable,
  once requests are no longer sent.**
-/

namespace PartitionRouting
namespace Simulation

variable {settings : HealthSettings} {network : Network} {sink : Sink} {h h' : History}
  {s s' : Simulation} {o : Occurrence} {t : Nat} {e : Endpoint} {f : Flight}

/-! ### When flights end -/

/-- Whatever is in flight after a step was in flight before or has just started. -/
theorem mem_flights_of_step (hs : Step s o s') (hf : f ∈ s'.flights) :
    o.started? = some f ∨ f ∈ s.flights := by
  cases hs with
  | depart label a =>
    rcases List.mem_cons.mp ((perm_schedule _ _).mem_iff.mp hf) with rfl | hf
    · exact Or.inl rfl
    · exact Or.inr hf
  | land _ _ _ =>
    rw [flights_land] at hf
    exact Or.inr (List.mem_of_mem_erase hf)
  | lose _ _ _ =>
    rw [flights_land] at hf
    exact Or.inr (List.mem_of_mem_erase hf)
  | drop _ => exact Or.inr (List.mem_of_mem_erase hf)
  | wait _ _ => exact Or.inr hf
  | change a c => exact Or.inr hf

/-- A request that ends was in flight. -/
theorem mem_flights_of_completed (hs : Step s o s') (ho : o.completed? = some f) :
    f ∈ s.flights := by
  obtain rfl := Occurrence.completed?_eq_some_iff.mp ho
  cases hs with
  | land hf _ _ => exact hf

/-- A request takes no longer than the timeout. -/
theorem endsAt_le_of_started (hs : Step s o s') (ho : o.started? = some f) :
    f.endsAt ≤ s.clock + s.monitor.settings.timeout := by
  obtain rfl := Occurrence.started?_eq_some_iff.mp ho
  cases hs with
  | depart label a => exact (s.newFlight label a).endsAt_le_expiresAt

/-- Every request in flight ends by time `t`. -/
def DueBy (s : Simulation) (t : Nat) : Prop := ∀ f ∈ s.flights, f.endsAt ≤ t

/-- **Every request in flight ends within the timeout**, counted from now. -/
theorem dueBy_course (hc : Course (fresh settings network sink) h s) :
    s.DueBy (s.clock + settings.timeout) := by
  induction hc with
  | start => exact nofun
  | @step h s s' o hc hstep ih =>
    intro f hf
    have hclock := clock_le_of_step hstep
    rcases mem_flights_of_step hstep hf with hstarted | hf
    · have hends := endsAt_le_of_started hstep hstarted
      have hsettings : s.monitor.settings = settings := settings_course hc
      rw [hsettings] at hends
      omega
    · have hends := ih f hf
      omega

/-! ### Quiet courses -/

/-- No request started. -/
def History.Quiet (h : History) : Prop := ∀ m ∈ h, m.what.started? = none

instance (h : History) : Decidable h.Quiet :=
  inferInstanceAs (Decidable (∀ m ∈ h, m.what.started? = none))

theorem quiet_landings (s : Simulation) (t : Nat) :
    History.Quiet (landings t s.flights s) := fun _ hm => started?_of_mem_landings hm

/-- While no request starts, the requests that complete are those that were in flight, so
all of them do so by the time by which these were due. -/
theorem dueBy_of_quiet (hc : Course s h s') (hquiet : h.Quiet) (hdue : s.DueBy t) :
    s'.DueBy t ∧ ∀ e, ∀ f ∈ h.completed e, f.endsAt ≤ t := by
  induction hc with
  | start => exact ⟨hdue, nofun⟩
  | @step h s' s'' o hc hstep ih =>
    obtain ⟨hquiet, hnow⟩ := List.forall_mem_append.mp hquiet
    have hnone : o.started? = none := hnow _ (List.mem_singleton_self _)
    obtain ⟨hdue, hpast⟩ := ih hquiet
    -- no request is added, so all were in flight before
    constructor
    · intro f hf
      rcases mem_flights_of_step hstep hf with hstarted | hf
      · rw [hnone] at hstarted
        contradiction
      · exact hdue f hf
    · intro e f hf
      rcases History.mem_requests_concat.mp hf with hf | ⟨hcompleted, -⟩
      · exact hpast e f hf
      · exact hdue f (mem_flights_of_completed hstep hcompleted)

/-! ### Rest -/

/-- **Nothing is in flight**, no slot is taken and no probe is marked. -/
structure Idle (s : Simulation) : Prop where
  /-- No request is in flight. -/
  flights : s.flights = []
  /-- No slot is taken. -/
  pending : ∀ e, s.monitor.pending e = 0
  /-- No probe is marked. -/
  probing : ∀ e, (s.monitor.record e).probing = false

/-- The slots that are taken are those of the requests in flight. -/
theorem pending_course (hc : Course (fresh settings network sink) h s) (e : Endpoint) :
    s.monitor.pending e = (s.station e).flights.length := by
  rw [s.pending_eq]
  refine station_course (P := fun _ st => st.record.pending = st.flights.length)
    (orderly_fresh settings network sink) ?_ ?_ hc
  · exact rfl
  · intro h s o st' _ hm hpending
    exact Station.pending_move hm hpending

theorem idle_of_flights_eq_nil (hc : Course (fresh settings network sink) h s)
    (hflights : s.flights = []) : s.Idle where
  flights := hflights
  pending e := by
    rw [pending_course hc, station, hflights]
    rfl
  probing e := by
    rw [← Bool.not_eq_true, (probedAlone (probed_course hc e)).marked, hflights]
    simp

theorem flights_advance_of_dueBy (hdue : s.DueBy t) {ms : Nat} (ht : t ≤ s.clock + ms) :
    (s.advance ms).value.flights = [] := by
  rw [advance, flights_advanceTo, List.dropWhile_eq_nil_iff]
  intro f hf
  have hends := hdue f hf
  exact decide_eq_true (Nat.le_trans hends ht)

/-- Where nothing is in flight, an instance that has not failed after time `t` is available
one window later. -/
theorem isAvailable_of_idle (hc : Course (fresh settings network sink) h s) (hidle : s.Idle)
    (hpast : ∀ f ∈ h.completed e, f.endsAt ≤ t) (ht : t + settings.retryAfter ≤ s.clock) :
    s.isAvailable e := by
  by_cases hs : s.monitor.state? e = some .unhealthy
  · obtain ⟨t', hlast⟩ := exists_lastFailure? hc hs
    obtain ⟨f, hf, rfl⟩ := History.mem_completed_of_lastFailure? hlast
    have hends := hpast f hf
    refine (isAvailable_iff_of_unhealthy hc hs).mpr ⟨?_, f.endsAt, hlast, ?_⟩
    · rw [hidle.flights]
      exact nofun
    · omega
  · exact isAvailable_of_ne_unhealthy hs

/-- **A simulation comes to rest.**  If no request starts from some state on, then from the
timeout on nothing is in flight, and from `retryAfter` later on every instance is available.
Requests may be dropped or lost meanwhile and instances may change their behaviour, and time
may pass in one advance or in several. -/
theorem comes_to_rest (hc : Course (fresh settings network sink) h s) (hc' : Course s h' s')
    (hquiet : h'.Quiet) (ms : Nat) :
    (s.clock + settings.timeout ≤ s'.clock + ms → (s'.advance ms).value.Idle) ∧
      (s.clock + settings.timeout + settings.retryAfter ≤ s'.clock + ms →
        ∀ e, (s'.advance ms).value.isAvailable e) := by
  have hs : s.Orderly := orderly_course hc (orderly_fresh ..)
  have hdue : s.DueBy (s.clock + settings.timeout) := dueBy_course hc
  -- the advance is quiet itself, so all that completes was in flight in `s`
  have hadvance : Course s' (landings (s'.clock + ms) s'.flights s') (s'.advance ms).value :=
    course_advanceTo (orderly_course hc' hs) (Nat.le_add_right _ _)
  have hrest := List.forall_mem_append.mpr ⟨hquiet, quiet_landings s' (s'.clock + ms)⟩
  have hpast := (dueBy_of_quiet (hc'.trans hadvance) hrest hdue).2
  have hall := hc.trans (hc'.trans hadvance)
  have hidle (ht : s.clock + settings.timeout ≤ s'.clock + ms) : (s'.advance ms).value.Idle :=
    idle_of_flights_eq_nil hall
      (flights_advance_of_dueBy (dueBy_of_quiet hc' hquiet hdue).1 ht)
  refine ⟨hidle, fun ht e => ?_⟩
  refine isAvailable_of_idle hall (hidle (by omega)) (t := s.clock + settings.timeout) ?_ ?_
  · intro f hf
    rw [History.completed, History.requests_append, List.mem_append] at hf
    rcases hf with hf | hf
    · have hends := endsAt_le_clock hc (orderly_fresh ..) hf
      omega
    · exact hpast e f hf
  · rw [advance, clock_advanceTo]
    exact ht

/-- A probe that is in flight when the last request has started runs into the timeout and
starts the window over: its slot is held and the instance unavailable for as long as the
bounds allow. -/
theorem comes_to_rest_after_late_failure :
    let failing : Behaviour := { status := 503 }
    let s₀ := fresh
      { unhealthyAfterFailures := 1, retryUnhealthyAfterMs := 10, requestTimeoutMs := 50 }
      { behaviours := .ofList [("a", failing)] } .discarding
    let as : List Action := [.send "a", .advance 10, .change "a" (.latency (.ofMillis 100)),
      .start "probe" "a", .start "stray" "a"]
    let bs : List Action := [.advance 20, .cancel "stray", .change "a" (.status 200)]
    let s := (s₀.run as).value
    let s' := (s.run bs).value
    s.clock = 10 ∧ s'.clock = 30 ∧ (s.history bs).Quiet ∧
      (s'.advance 29).value.monitor.pending "a" = 1 ∧ (s'.advance 30).value.Idle ∧
      (s'.advance 39).value.isAvailable "a" = false ∧
      ∀ e, (s'.advance 40).value.isAvailable e := by
  intro failing s₀ as bs s s'
  have has : Course s₀ (s₀.history as) s := course_history (orderly_fresh ..) as
  have hbs : Course s (s.history bs) s' :=
    course_history (orderly_course has (orderly_fresh ..)) bs
  have hquiet : (s.history bs).Quiet := by decide +kernel
  refine ⟨?_, ?_, hquiet, ?_, (comes_to_rest has hbs hquiet 30).1 ?_, ?_,
    (comes_to_rest has hbs hquiet 40).2 ?_⟩
  all_goals decide +kernel

end Simulation
end PartitionRouting
