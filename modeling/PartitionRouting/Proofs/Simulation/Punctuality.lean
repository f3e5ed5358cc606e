import Mathlib.Control.Monad.Basic
import PartitionRouting.Proofs.Simulation.Accounting
import PartitionRouting.Proofs.Simulation.Advance
import PartitionRouting.Proofs.Simulation.Availability
import PartitionRouting.Proofs.Text.Messages

/-!
# Requests end on time

A request takes the behaviour of its instance along when it starts, and is polled until a
poll finds something.  So when it ends and what its sender is given is fixed at its start, by
that behaviour and by the timeout.  Nothing that happens later makes a difference: a request
that is not dropped has ended at a time that follows exactly if the time is past its end, in
whatever steps the clock went there.

## Main definitions

* `Flight.FixedBy` — the end of a request as the behaviour of its instance fixes it.
* `Flight.landing` — a request with its end.
* `Simulation.Punctual` — the requests to an instance end as it was fixed, when it was fixed,
  and their times are added up.

## Main results

* `Flight.fixedBy` — the polls of a request find what the behaviour it took along fixes.
* `Simulation.landed_course` — the requests that completed did so each at its end.
* `Simulation.ended_course` — the requests that are past their end are those that have ended.
* `Simulation.result?_course` — what the sender of a named request learns, and when.
* `Simulation.punctual_course` — **every request ends on time.**
-/

namespace PartitionRouting

/-! ### Flights -/

namespace Flight

/-- **How a request ends that starts at time `now`**, at an instance of behaviour `b`, if it may
take at most `timeout`. -/
structure FixedBy (f : Flight) (b : Behaviour) (now timeout : Nat) : Prop where
  /-- It starts now. -/
  startedAt : f.startedAt = now
  /-- It ends after the latency, or after the timeout if this is shorter. -/
  endsAt : ∀ ms, b.latency = .ofMillis ms → f.endsAt = now + min ms timeout
  /-- If the latency is no whole number of milliseconds, it ends when the clock first shows that
  the latency is over, or the timeout. -/
  due : ∀ t, f.endsAt ≤ t ↔ (Duration.ofMillis now).nanos +
    min b.latency.nanos (Duration.ofMillis timeout).nanos ≤ (Duration.ofMillis t).nanos
  /-- It takes that long. -/
  time : f.time = .ofMillis (min b.latency.ceilMillis timeout)
  /-- It is polled in vain before its end. -/
  early : ∀ t < f.endsAt, f.poll t = none
  /-- The poll at its end finds how it ends. -/
  polled : f.poll f.endsAt = some f.ending
  /-- It is abandoned exactly if the latency is longer than the timeout. -/
  timedOut : f.result =
      .error (.requestFailed f.endpoint ("timed out after " ++ (Duration.ofMillis timeout).text)) ↔
    (Duration.ofMillis timeout).nanos < b.latency.nanos
  /-- Otherwise it fails in the transport if that is faulty. -/
  broken : b.latency.nanos ≤ (Duration.ofMillis timeout).nanos → b.faulty = true →
    f.result = .error (.requestFailed f.endpoint (transportError f.endpoint).message)
  /-- Otherwise it is answered. -/
  answered : b.latency.nanos ≤ (Duration.ofMillis timeout).nanos → b.faulty = false →
    f.result = .ok b.status

theorem endsAt_le_iff {f : Flight} {t : Nat} :
    f.endsAt ≤ t ↔ (Duration.ofMillis f.startedAt).nanos +
      min f.behaviour.latency.nanos (Duration.ofMillis f.timeout).nanos ≤
        (Duration.ofMillis t).nanos := by
  have hover : f.behaviour.latency.ceilMillis ≤ t - f.startedAt ↔ _ :=
    Duration.ceilMillis_le_iff
  -- at a whole millisecond it makes no difference that the timer was rounded up
  rw [endsAt_eq]
  simp only [Duration.nanos_ofMillis] at hover ⊢
  omega

/-- The answer is in time unless it takes longer than the timeout. -/
theorem result_of_le {f : Flight}
    (h : f.behaviour.latency.nanos ≤ (Duration.ofMillis f.timeout).nanos) :
    f.result = (f.behaviour.answer f.endpoint).result f.endpoint := by
  have hintime : ¬f.timeout < f.behaviour.latency.ceilMillis :=
    Nat.not_lt.mpr (Duration.ceilMillis_le_iff.mpr h)
  rw [result, ending_eq, if_neg hintime]

/-- **The polls of a request find what the behaviour it took along fixes.** -/
theorem fixedBy (f : Flight) : f.FixedBy f.behaviour f.startedAt f.timeout where
  startedAt := rfl
  endsAt ms hms := by rw [endsAt_eq, hms, Duration.ceilMillis_ofMillis]
  due _ := endsAt_le_iff
  time := by rw [time, elapsed, endsAt_eq, Nat.add_sub_cancel_left]
  early _ := poll_eq_none_iff.mpr
  polled := f.poll_endsAt
  timedOut := by
    by_cases hlate : (Duration.ofMillis f.timeout).nanos < f.behaviour.latency.nanos
    · have hlate' : f.timeout < f.behaviour.latency.ceilMillis :=
        Nat.not_le.mp fun h => Nat.not_le.mpr hlate (Duration.ceilMillis_le_iff.mp h)
      rw [result, ending_eq, if_pos hlate']
      exact iff_of_true rfl hlate
    · refine iff_of_false (fun h => ?_) hlate
      rw [result_of_le (Nat.not_lt.mp hlate), Behaviour.answer] at h
      split at h
      -- the message of a failure does not read like a timeout
      · exact (transportError f.endpoint).message_ne_timedOut _ (by simpa [Ending.result] using h)
      · contradiction
  broken hintime hfaulty := by
    rw [result_of_le hintime, Behaviour.answer, if_pos hfaulty]
    rfl
  answered hintime hfaulty := by
    rw [result_of_le hintime, Behaviour.answer, hfaulty]
    rfl

/-- A request with its end. -/
def landing (f : Flight) : Landing := ⟨f, f.endsAt, f.ending⟩

end Flight

namespace Simulation

variable {settings : HealthSettings} {network : Network} {sink : Sink} {h : History}
  {s s' : Simulation} {o : Occurrence} {e : Endpoint} {f : Flight} {label : String}

/-- A request that starts is fixed by the behaviour of its instance at that moment. -/
theorem fixedBy_of_step (hs : Step s o s') (ho : o.started? = some f) :
    f.FixedBy (s.network.behaviour f.endpoint) s.clock s.monitor.settings.timeout := by
  obtain rfl := Occurrence.started?_eq_some_iff.mp ho
  cases hs with
  | depart label a => exact Flight.fixedBy _

/-! ### Ends -/

/-- Whatever was lost ended in the past. -/
theorem endsAt_le_clock_of_lost (hc : Course (fresh settings network sink) h s)
    (hf : f ∈ h.lost e) : f.endsAt ≤ s.clock := by
  refine endsAt_le_clock_of_ended hc (orderly_fresh ..) (fun {o f} ho => ?_) hf
  exact Or.inr (Occurrence.lost?_eq_some_iff.mp ho)

open scoped List in
/-- **The requests that are past their end are those that have ended**, completed or lost,
apart from those that were dropped. -/
theorem ended_course (hc : Course (fresh settings network sink) h s) (hs : s.Settled)
    (e : Endpoint) :
    (h.started e).filter (·.endsAt ≤ s.clock) ~
      h.completed e ++ h.lost e ++ (h.cancelled e).filter (·.endsAt ≤ s.clock) := by
  have hcompleted : (h.completed e).filter (·.endsAt ≤ s.clock) = h.completed e :=
    List.filter_eq_self.mpr fun f hf => decide_eq_true (endsAt_le_clock hc (orderly_fresh ..) hf)
  have hlost : (h.lost e).filter (·.endsAt ≤ s.clock) = h.lost e :=
    List.filter_eq_self.mpr fun f hf => decide_eq_true (endsAt_le_clock_of_lost hc hf)
  have hflights : (s.flights.filter (·.endpoint = e)).filter (·.endsAt ≤ s.clock) = [] := by
    refine List.filter_eq_nil_iff.mpr fun f hf => ?_
    have hdue := hs f (List.mem_filter.mp hf).1
    simpa using hdue
  have hrequests := (requests_course hc e).filter (·.endsAt ≤ s.clock)
  rwa [List.filter_append, List.filter_append, List.filter_append, hcompleted, hlost, hflights,
    List.append_nil] at hrequests

/-- Unless it was dropped or lost, a request has completed exactly if it is past its end. -/
theorem mem_completed_iff (hc : Course (fresh settings network sink) h s) (hs : s.Settled)
    (hf : f ∈ h.started e) (hkept : f ∉ h.cancelled e) (hlost : f ∉ h.lost e) :
    f ∈ h.completed e ↔ f.endsAt ≤ s.clock := by
  refine ⟨endsAt_le_clock hc (orderly_fresh ..), fun hdue => ?_⟩
  have hended := (ended_course hc hs e).mem_iff.mp (List.mem_filter.mpr ⟨hf, decide_eq_true hdue⟩)
  rcases List.mem_append.mp hended with hended | hdropped
  · exact (List.mem_append.mp hended).resolve_right hlost
  · exact absurd (List.mem_filter.mp hdropped).1 hkept

/-! ### Results -/

theorem landed_step (hs : s.Orderly) (hstep : Step s o s') :
    s'.landed = s.landed ++ (o.completed?.map Flight.landing).toList := by
  cases hstep with
  | @land f x hf hpoll h =>
    have hcounted : (s.without f).countable f = true := h
    obtain ⟨hclock, rfl⟩ := hs.due hf hpoll
    rw [landed_land, if_pos hcounted]
    exact congrArg (s.landed ++ [⟨f, ·, f.ending⟩]) hclock
  | @lose f x _ _ h =>
    have hlost : ¬(s.without f).countable f = true := Bool.eq_false_iff.mp h
    rw [landed_land, if_neg hlost]
    exact (List.append_nil _).symm
  | depart _ _ => exact (List.append_nil _).symm
  | drop _ => exact (List.append_nil _).symm
  | wait _ _ => exact (List.append_nil _).symm
  | change _ _ => exact (List.append_nil _).symm

/-- The landings are the requests that completed, in order, each with its end. -/
theorem landed_course (hc : Course (fresh settings network sink) h s) :
    s.landed = (h.filterMap (·.what.completed?)).map Flight.landing := by
  induction hc with
  | start => rfl
  | @step h s s' o hc hstep ih =>
    rw [landed_step (orderly_course hc (orderly_fresh ..)) hstep, ih, List.filterMap_append,
      List.map_append]
    cases ho : o.completed? <;> simp [ho]

/-- Whatever has landed is a request that completed, with its end. -/
theorem mem_landed_iff (hc : Course (fresh settings network sink) h s) {l : Landing} :
    l ∈ s.landed ↔ ∃ f ∈ h.completed l.flight.endpoint, f.landing = l := by
  rw [landed_course hc, List.mem_map]
  refine exists_congr fun f => and_congr_left fun hl => ?_
  rw [← hl, List.mem_filterMap, History.completed, History.mem_requests]
  exact (and_iff_left rfl).symm

/-- A request that completed had started. -/
theorem exists_started_of_mem_landed (hc : Course (fresh settings network sink) h s)
    {l : Landing} (hl : l ∈ s.landed) :
    ∃ f, f.landing = l ∧ ∃ m ∈ h, m.what.started? = some f := by
  obtain ⟨f, hcompleted, hf⟩ := (mem_landed_iff hc).mp hl
  have hstarted : f ∈ h.started l.flight.endpoint := by
    rw [(requests_course hc l.flight.endpoint).mem_iff]
    simp [hcompleted]
  exact ⟨f, hf, (History.mem_requests.mp hstarted).1⟩

/-- **What the sender of a named request learns, and when**: nothing before the end of the
request, and then its result, unless it was dropped or lost. -/
theorem result?_course (hc : Course (fresh settings network sink) h s) (hs : s.Settled)
    (hf : f ∈ h.started e) (hlabel : f.label = some label)
    (hname : ∀ m ∈ h, ∀ g, m.what.started? = some g → g.label = some label → g = f)
    (hkept : f ∉ h.cancelled e) (hlost : f ∉ h.lost e) :
    s.result? label = if f.endsAt ≤ s.clock then some f.result else none := by
  -- no other request has this name, so its landing is the only one that can be found
  have honly : ∀ l ∈ s.landed, l.flight.label = some label → l = f.landing := fun l hl hname' => by
    obtain ⟨g, rfl, m, hm, hstarted⟩ := exists_started_of_mem_landed hc hl
    rw [hname m hm g hstarted hname']
  obtain ⟨-, rfl⟩ := History.mem_requests.mp hf
  have hended : f.landing ∈ s.landed ↔ f.endsAt ≤ s.clock := by
    rw [← mem_completed_iff hc hs hf hkept hlost, mem_landed_iff hc]
    refine ⟨fun ⟨g, hg, hsame⟩ => ?_, fun hcompleted => ⟨f, hcompleted, rfl⟩⟩
    have hgf : g = f := congrArg Landing.flight hsame
    rwa [hgf] at hg
  rw [result?, landed?]
  split
  · next hdue =>
    have hsome : (s.landed.reverse.find? (·.flight.label = some label)).isSome :=
      List.find?_isSome.mpr
        ⟨f.landing, List.mem_reverse.mpr (hended.mpr hdue), decide_eq_true hlabel⟩
    obtain ⟨l, hl⟩ := Option.isSome_iff_exists.mp hsome
    have hname' : l.flight.label = some label := by simpa using List.find?_some hl
    have hmem := List.mem_reverse.mp (List.mem_of_find?_eq_some hl)
    rw [hl, honly l hmem hname']
    rfl
  · next hearly =>
    have hnone : s.landed.reverse.find? (·.flight.label = some label) = none := by
      refine List.find?_eq_none.mpr fun l hl hname' => hearly (hended.mp ?_)
      have hmem := List.mem_reverse.mp hl
      rwa [← honly l hmem (of_decide_eq_true hname')]
    rw [hnone]
    rfl

/-! ### Runs -/

/-- **The requests to `e` end on time.** -/
structure Punctual (settings : HealthSettings) (sink : Sink) (h : History) (s : Simulation)
    (e : Endpoint) : Prop where
  /-- When and how a request ends is fixed at its start, by the behaviour of its instance then. -/
  fixed : ∀ m ∈ h, ∀ f, m.what = .departed f → f.endpoint = e →
    f.FixedBy (m.before.network.behaviour e) m.before.clock settings.timeout
  /-- A request that started completed, was lost or dropped, or is in flight. -/
  requests : (h.started e).Perm
    (h.completed e ++ h.lost e ++ h.cancelled e ++ s.flights.filter (·.endpoint = e))
  /-- When a request ends, it is its time. -/
  onTime : ∀ m ∈ h, ∀ f s', m.what = .landed f ∨ m.what = .lost f → Step m.before m.what s' →
    s'.clock = f.endsAt
  /-- The requests that have completed did so at their ends, with what was found then. -/
  landed : s.landed = (h.filterMap (·.what.completed?)).map Flight.landing
  /-- A request in flight is not past its end. -/
  inFlight : ∀ f ∈ s.flights, s.clock ≤ f.endsAt
  /-- The requests that are past their end are those that have ended, apart from dropped ones. -/
  ended : s.Settled → ((h.started e).filter (·.endsAt ≤ s.clock)).Perm
    (h.completed e ++ h.lost e ++ (h.cancelled e).filter (·.endsAt ≤ s.clock))
  /-- The sender of a named request is given its result at its end, unless it was dropped. -/
  answered : s.Settled → ∀ f ∈ h.started e, ∀ label, f.label = some label →
    (∀ m ∈ h, ∀ g, m.what.started? = some g → g.label = some label → g = f) →
    f ∉ h.cancelled e → f ∉ h.lost e →
    s.result? label = if f.endsAt ≤ s.clock then some f.result else none
  /-- No request is lost while the times of all can be kept. -/
  kept : h.TimeFits (sink.tally? e) e → h.lost e = []
  /-- The times of the requests that completed are added up, and of no others. -/
  waitingTime : (s.sink.tally? e).map (·.waitingTime.nanos) = (sink.tally? e).map
    (·.waitingTime.nanos + ((h.completed e).map fun f => f.time.nanos).sum)
  /-- It makes no difference in how many steps time passes. -/
  split : ∀ a b, (s.advance a >>= fun s' => s'.advance b) = s.advance (a + b)

/-- **Every request ends on time**, with the result that the behaviour of its instance fixed
at its start: after its latency or, if this is longer, after the timeout, whatever happens to
its instance or to other requests meanwhile. -/
theorem punctual_course (hc : Course (fresh settings network sink) h s) (e : Endpoint) :
    Punctual settings sink h s e where
  fixed := by
    rintro m hm f hwhat rfl
    obtain ⟨_, s', hbefore, hstep⟩ := hc.exists_step hm
    have hsettings : m.before.monitor.settings = settings := settings_course hbefore
    rw [hwhat] at hstep
    have hfixed := fixedBy_of_step hstep rfl
    rwa [hsettings] at hfixed
  requests := requests_course hc e
  onTime m hm _ _ ho hstep := by
    obtain ⟨_, _, hbefore, _⟩ := hc.exists_step hm
    exact clock_eq_of_ended (orderly_course hbefore (orderly_fresh ..)) hstep ho
  landed := landed_course hc
  inFlight := (orderly_course hc (orderly_fresh ..)).clock_le
  ended hs := ended_course hc hs e
  answered hs _ hf _ hlabel hname hkept hlost := result?_course hc hs hf hlabel hname hkept hlost
  kept := (waited_course hc e).2
  waitingTime := (waited_course hc e).1
  split := advance_advance s

/-- An answer that takes as long as is allowed comes in time, and one that takes longer does
not.  The request after these is dropped, and a later fault of the instance concerns the last
one alone. -/
theorem punctual_course_of_each_kind :
    let slow : Behaviour := { latency := .ofMillis 50 }
    let s₀ := fresh { requestTimeoutMs := 50 } { behaviours := .ofList [("a", slow)] }
      (.counting {})
    let as : List Action := [.start "edge" "a", .change "a" (.latency (.ofMillis 51)),
      .start "late" "a", .start "dropped" "a", .change "a" (.latency (.ofMillis 20)),
      .change "a" (.faulty true), .start "broken" "a", .cancel "dropped",
      .change "a" (.latency .zero), .advance 49]
    let s := (s₀.run as).value
    let s' := (s₀.run (as ++ [.advance 1])).value
    Punctual { requestTimeoutMs := 50 } (.counting {}) (s₀.history as) s "a" ∧
      s.result? "broken" =
        some (.error (.requestFailed "a"
          "Io \x7b reason: \"Mocked transport error sending to a\" \x7d")) ∧
      s.result? "edge" = none ∧ s'.result? "edge" = some (.ok 200) ∧
      s'.result? "late" = some (.error (.requestFailed "a" "timed out after 50ms")) ∧
      s'.result? "dropped" = none ∧
      (s'.sink.counters.tally "a").waitingTime = .ofMillis (20 + 50 + 50) := by
  intro slow s₀ as s s'
  refine ⟨punctual_course (course_history (orderly_fresh ..) as) "a", ?_, ?_, ?_, ?_, ?_, ?_⟩
  all_goals decide +kernel

end Simulation
end PartitionRouting
