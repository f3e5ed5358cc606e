import PartitionRouting.Proofs.Simulation.Judgement
import PartitionRouting.Proofs.Simulation.Probing

/-!
# When an instance is available

An unhealthy instance is left alone until some time has passed since its last failure, and
again while its probe is in flight.  Its record keeps the time of the last failure and a
mark for the probe; here both are read off the history, so that availability depends on
what happened alone.  The window is counted from the failure that completed last, in
whatever order the requests started, and an end that speaks neither for nor against the
instance leaves it where it is.

## Main definitions

* `History.lastFailure?` — when the last of the requests that failed did so.
* `History.WindowOpen` — enough time has passed since then.
* `Simulation.AvailableByHistory` — availability as the history determines it.

## Main results

* `Simulation.lastFailure_course` — the record keeps the time of the last failure.
* `Simulation.exists_lastFailure?` — **an unhealthy instance has failed before.**
* `Simulation.available_by_history` — **an instance is available exactly when the history
  says so**, to the millisecond.
-/

namespace PartitionRouting

open Std Simulation

/-! ### The last failure -/

/-- Whether a request to `e` has failed. -/
def Simulation.Occurrence.fails (e : Endpoint) : Occurrence → Bool
  | landed f => f.endpoint = e ∧ f.ending.isFailure
  | _ => false

namespace Simulation.History

/-- When the last of the requests to `e` that failed did so. -/
def lastFailure? (h : History) (e : Endpoint) : Option Nat :=
  ((h.completed e).filter (·.ending.isFailure)).getLast?.map (·.endsAt)

/-- At least `retryAfter` has passed at time `now` since the last failure of `e`. -/
def WindowOpen (h : History) (retryAfter now : Nat) (e : Endpoint) : Prop :=
  ∃ t, h.lastFailure? e = some t ∧ t + retryAfter ≤ now

variable {h h' : History} {e : Endpoint} {f : Flight}

theorem lastFailure?_congr (hcompleted : h'.completed e = h.completed e) :
    h'.lastFailure? e = h.lastFailure? e := by
  rw [lastFailure?, lastFailure?, hcompleted]

theorem lastFailure?_concat (hcompleted : h'.completed e = h.completed e ++ [f]) :
    h'.lastFailure? e = if f.ending.isFailure then some f.endsAt else h.lastFailure? e := by
  rw [lastFailure?, hcompleted, List.filter_append]
  cases hfailure : f.ending.isFailure with
  | true => simp [hfailure]
  | false => simp [hfailure, lastFailure?]

theorem mem_completed_of_lastFailure? {t : Nat} (ht : h.lastFailure? e = some t) :
    ∃ f ∈ h.completed e, f.endsAt = t := by
  obtain ⟨f, hf, rfl⟩ := Option.map_eq_some_iff.mp ht
  exact ⟨f, (List.mem_filter.mp (List.mem_of_getLast? hf)).1, rfl⟩

/-- Whoever has failures since the last success has a last failure. -/
theorem isSome_lastFailure? (hfailed : 0 < failuresSinceSuccess (h.endings e)) :
    (h.lastFailure? e).isSome := by
  obtain ⟨x, hx, hfailure⟩ := List.countP_pos_iff.mp hfailed
  have hx := List.mem_reverse.mp ((List.takeWhile_sublist _).subset hx)
  obtain ⟨f, hf, rfl⟩ := List.mem_map.mp hx
  have hne : (h.completed e).filter (·.ending.isFailure) ≠ [] :=
    List.ne_nil_of_mem (List.mem_filter.mpr ⟨hf, hfailure⟩)
  rw [lastFailure?, Option.isSome_map]
  exact List.getLast?_isSome.mpr hne

end Simulation.History

/-! ### Stations -/

namespace Station

variable {settings : HealthSettings} {now : Nat} {e : Endpoint} {st st' : Station} {h : History}
  {o : Occurrence}

/-- A verdict notes the time of a failure and leaves the time noted before otherwise. -/
theorem lastFailure_judged (st : Station) (threshold : Nat) (f : Flight) :
    (st.judged threshold f).lastFailure =
      if f.ending.isFailure then some f.endsAt else st.record.lastFailure := by
  rw [judged, Ending.verdict_eq]
  cases hsuccess : f.ending.isSuccess with
  | true =>
    -- an end does not speak for and against the instance at once
    have hfailure : f.ending.isFailure = false := Ending.isFailure_eq_false hsuccess
    rw [hfailure]
    rfl
  | false => cases f.ending.isFailure <;> rfl

theorem lastFailure_move (hm : Move settings now e st o st')
    (hlast : st.record.lastFailure = h.lastFailure? e) (s : Simulation) :
    st'.record.lastFailure = History.lastFailure? (h ++ [⟨s, o⟩]) e := by
  cases hm with
  | other ho =>
    obtain ⟨-, hcompleted, -, -⟩ := History.concat_of_other (h := h) (s := s) ho
    rw [History.lastFailure?_congr hcompleted, hlast]
  | @depart f he hstart hprobe =>
    obtain ⟨-, hcompleted, -, -⟩ := History.concat_departed (h := h) (s := s) he
    rw [History.lastFailure?_congr hcompleted]
    exact hlast
  | @land f he hf hdue haccepts =>
    obtain ⟨-, hcompleted, -, -⟩ := History.concat_landed (h := h) (s := s) he
    rw [History.lastFailure?_concat hcompleted, ← hlast]
    exact st.lastFailure_judged settings.threshold f
  | @lose f he hf hdue hrefuses =>
    obtain ⟨-, hcompleted, -, -⟩ := History.concat_lost (h := h) (s := s) he
    rw [History.lastFailure?_congr hcompleted]
    exact hlast
  | @drop f he hf =>
    obtain ⟨-, hcompleted, -, -⟩ := History.concat_dropped (h := h) (s := s) he
    rw [History.lastFailure?_congr hcompleted]
    exact hlast

end Station

/-! ### Runs -/

namespace Simulation

variable {settings : HealthSettings} {network : Network} {sink : Sink} {h : History}
  {s : Simulation} {e : Endpoint}

/-- A request ends at its time. -/
theorem clock_eq_of_ended {s' : Simulation} {o : Occurrence} {f : Flight} (hs : s.Orderly)
    (hstep : Step s o s') (ho : o = .landed f ∨ o = .lost f) : s'.clock = f.endsAt := by
  rcases ho with rfl | rfl
  · cases hstep with
    | land hf hpoll _ => exact clock_land.trans (hs.due hf hpoll).1
  · cases hstep with
    | lose hf hpoll _ => exact clock_land.trans (hs.due hf hpoll).1

theorem clock_eq_of_landed {s' : Simulation} {f : Flight} (hs : s.Orderly)
    (hstep : Step s (.landed f) s') : s'.clock = f.endsAt :=
  clock_eq_of_ended hs hstep (Or.inl rfl)

/-- Whatever has ended did so in the past. -/
theorem endsAt_le_clock_of_ended {s₀ : Simulation} (hc : Course s₀ h s) (hs₀ : s₀.Orderly)
    {way : Occurrence → Option Flight}
    (hway : ∀ {o f}, way o = some f → o = .landed f ∨ o = .lost f) {f : Flight}
    (hf : f ∈ h.requests way e) : f.endsAt ≤ s.clock := by
  induction hc with
  | start => contradiction
  | @step h s s' o hc hstep ih =>
    rcases History.mem_requests_concat.mp hf with hf | ⟨hended, -⟩
    · exact Nat.le_trans (ih hf) (clock_le_of_step hstep)
    -- the request that ends last does so at the present time
    · exact Nat.le_of_eq (clock_eq_of_ended (orderly_course hc hs₀) hstep (hway hended)).symm

/-- Whatever has completed did so in the past. -/
theorem endsAt_le_clock {s₀ : Simulation} (hc : Course s₀ h s) (hs₀ : s₀.Orderly)
    {f : Flight} (hf : f ∈ h.completed e) : f.endsAt ≤ s.clock := by
  refine endsAt_le_clock_of_ended hc hs₀ (fun {o f} ho => ?_) hf
  exact Or.inl (Occurrence.completed?_eq_some_iff.mp ho)

/-- The record of an instance keeps the time of its last failure. -/
theorem lastFailure_course (hc : Course (fresh settings network sink) h s) (e : Endpoint) :
    (s.monitor.record e).lastFailure = h.lastFailure? e := by
  refine station_course (P := fun h st => st.record.lastFailure = h.lastFailure? e)
    (orderly_fresh settings network sink) ?_ ?_ hc
  · exact rfl
  · intro h s o st' _ hm hlast
    exact Station.lastFailure_move hm hlast s

theorem lastFailure?_le_clock (hc : Course (fresh settings network sink) h s) {t : Nat}
    (ht : h.lastFailure? e = some t) : t ≤ s.clock := by
  obtain ⟨f, hf, rfl⟩ := History.mem_completed_of_lastFailure? ht
  exact endsAt_le_clock hc (orderly_fresh settings network sink) hf

/-- An instance has a state once a request to it started. -/
theorem state?_eq_none_iff (hc : Course (fresh settings network sink) h s) :
    s.monitor.state? e = none ↔ h.started e = [] := by
  rw [state?_eq_judgement hc, History.judgement]
  split
  · next hnever => exact iff_of_true rfl hnever
  · next hever =>
    refine iff_of_false ?_ hever
    split <;> exact Option.some_ne_none _

/-- **An unhealthy instance has failed before.** -/
theorem exists_lastFailure? (hc : Course (fresh settings network sink) h s)
    (hs : s.monitor.state? e = some .unhealthy) : ∃ t, h.lastFailure? e = some t := by
  rw [state?_eq_judgement hc, History.judgement] at hs
  split at hs
  · contradiction
  · split at hs
    · next hle =>
      have hfailed : 0 < failuresSinceSuccess (h.endings e) :=
        Nat.lt_of_lt_of_le (Nat.le_max_left 1 settings.threshold) hle
      exact Option.isSome_iff_exists.mp (History.isSome_lastFailure? hfailed)
    · contradiction

/-- The record of an unhealthy instance and the history agree on whether the window is
open. -/
theorem retryWindowOpen_record_iff (hc : Course (fresh settings network sink) h s)
    (hs : s.monitor.state? e = some .unhealthy) :
    (s.monitor.record e).retryWindowOpen settings.retryAfter s.clock ↔
      h.WindowOpen settings.retryAfter s.clock e := by
  obtain ⟨t, ht⟩ := exists_lastFailure? hc hs
  have hrecord := (lastFailure_course hc e).trans ht
  rw [HealthRecord.retryWindowOpen_iff hrecord (lastFailure?_le_clock hc ht)]
  simp only [History.WindowOpen, ht, Option.some.injEq, exists_eq_left']

/-- An unhealthy instance is available once the window is open and no probe is in flight. -/
theorem isAvailable_iff_of_unhealthy (hc : Course (fresh settings network sink) h s)
    (hs : s.monitor.state? e = some .unhealthy) :
    s.isAvailable e ↔
      (∀ f ∈ s.flights, f.endpoint = e → f.probe = false) ∧
        h.WindowOpen settings.retryAfter s.clock e := by
  have hprobing : (s.monitor.record e).probing = false ↔
      ∀ f ∈ s.flights, f.endpoint = e → f.probe = false := by
    rw [← Bool.not_eq_true, (probedAlone (probed_course hc e)).marked]
    simp only [not_exists, not_and, Bool.not_eq_true]
  rw [isAvailable, Monitor.isAvailable_eq, settings_course hc,
    HealthRecord.isAvailable_of_unhealthy (state_record_of_state? hs), hprobing]
  exact and_congr_right fun _ => retryWindowOpen_record_iff hc hs

/-- An instance that is not unhealthy is available. -/
theorem isAvailable_of_ne_unhealthy (hs : s.monitor.state? e ≠ some .unhealthy) :
    s.isAvailable e := by
  rw [isAvailable, Monitor.isAvailable]
  rw [Monitor.state?] at hs
  cases hr : s.monitor.records[e]? with
  | none => rfl
  | some r =>
    rw [hr, Option.map_some] at hs
    refine HealthRecord.isAvailable_of_healthy ?_ _ _
    cases hstate : r.state with
    | healthy => rfl
    | unhealthy => exact absurd (congrArg some hstate) hs

/-- **Whether `e` is available is determined by the history**, and so is the time from which
on it is. -/
structure AvailableByHistory (h : History) (s : Simulation) (e : Endpoint) : Prop where
  /-- An instance is available unless it is unhealthy; it is then available if its probe is
  not in flight and enough time has passed since its last failure. -/
  available_iff : s.isAvailable e ↔
    h.started e = [] ∨ s.monitor.state? e = some .healthy ∨
      s.monitor.state? e = some .unhealthy ∧
        (∀ f ∈ s.flights, f.endpoint = e → f.probe = false) ∧
        h.WindowOpen s.monitor.settings.retryAfter s.clock e
  /-- An unhealthy instance has failed before, and its record says when. -/
  failed : s.monitor.state? e = some .unhealthy →
    ∃ t ≤ s.clock, h.lastFailure? e = some t ∧ (s.monitor.record e).lastFailure = some t
  /-- Every failure starts the window over, at the time at which it completes, whether the
  instance was unhealthy already or not; nothing else moves it. -/
  step : ∀ {o s'}, Step s o s' → s.clock ≤ s'.clock ∧
    History.lastFailure? (h ++ [⟨s, o⟩]) e =
      if o.fails e then some s'.clock else h.lastFailure? e

theorem lastFailure?_of_step {s' : Simulation} {o : Occurrence} (hs : s.Orderly)
    (hstep : Step s o s') (h : History) (e : Endpoint) :
    History.lastFailure? (h ++ [⟨s, o⟩]) e =
      if o.fails e then some s'.clock else h.lastFailure? e := by
  cases o with
  | landed f =>
    rw [clock_eq_of_landed hs hstep]
    by_cases he : f.endpoint = e
    · rw [History.lastFailure?_concat (History.requests_concat_of_some rfl he)]
      simp [Occurrence.fails, he]
    · have hother : ∀ g, (Occurrence.landed f).request? = some g → g.endpoint ≠ e :=
        fun g hg => Option.some.inj hg ▸ he
      rw [History.lastFailure?_congr (History.concat_of_other hother).2.1]
      simp [Occurrence.fails, he]
  | _ => exact History.lastFailure?_congr (History.requests_concat_of_none rfl)

/-- **Whether an instance is available is a function of what happened.**  It is, unless it
is unhealthy; then it is from the moment on that lies `retryAfter` behind its last failure,
as long as no probe of it is in flight.  Late failures move that moment, whichever request
they answer, and refused or dropped requests do not. -/
theorem available_by_history (hc : Course (fresh settings network sink) h s) (e : Endpoint) :
    AvailableByHistory h s e where
  available_iff := by
    have hsettings : s.monitor.settings = settings := settings_course hc
    rw [← state?_eq_none_iff hc]
    -- only an unhealthy instance can be unavailable, and only while its window is shut
    cases hstate : s.monitor.state? e with
    | none =>
      exact iff_of_true (isAvailable_of_ne_unhealthy (by rw [hstate]; exact nofun)) (Or.inl rfl)
    | some state =>
      cases state with
      | healthy =>
        exact iff_of_true (isAvailable_of_ne_unhealthy (by rw [hstate]; exact nofun))
          (Or.inr (Or.inl rfl))
      | unhealthy =>
        rw [isAvailable_iff_of_unhealthy hc hstate, hsettings]
        simp
  failed hs := by
    obtain ⟨t, ht⟩ := exists_lastFailure? hc hs
    exact ⟨t, lastFailure?_le_clock hc ht, ht, (lastFailure_course hc e).trans ht⟩
  step hstep :=
    ⟨clock_le_of_step hstep, lastFailure?_of_step (orderly_course hc (orderly_fresh ..)) hstep h e⟩

/-- A request from before the outage fails last and decides when the instance is available
again; a probe that is dropped and one that is refused leave it so. -/
theorem available_by_history_of_late_failure :
    let slow : Behaviour := { status := 503, latency := .ofMillis 5 }
    let s := fresh { unhealthyAfterFailures := 1, retryUnhealthyAfterMs := 10 }
      { behaviours := .ofList [("a", slow)] } .discarding
    let as : List Action :=
      [.start "late" "a", .change "a" (.latency .zero), .send "a", .advance 14]
    let bs : List Action := as ++ [.advance 1, .change "a" (.latency (.ofMillis 100)),
      .start "dropped" "a", .cancel "dropped", .change "a" (.latency .zero),
      .change "a" (.status 429), .send "a"]
    (s.run as).value.isAvailable "a" = false ∧
      AvailableByHistory (s.history bs) (s.run bs).value "a" ∧
      (s.run bs).value.monitor.state? "a" = some .unhealthy ∧
      (s.history bs).WindowOpen 10 15 "a" ∧ (s.run bs).value.clock = 15 := by
  intro slow s as bs
  have hbs : Course s (s.history bs) (s.run bs).value := course_history (orderly_fresh ..) bs
  have hlast : (s.history bs).lastFailure? "a" = some 5 := by decide +kernel
  refine ⟨?_, available_by_history hbs "a", ?_, ⟨5, hlast, Nat.le_refl 15⟩, ?_⟩
  · decide +kernel
  · decide +kernel
  · decide +kernel

end Simulation
end PartitionRouting
