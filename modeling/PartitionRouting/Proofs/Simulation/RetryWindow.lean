import PartitionRouting.Proofs.Simulation.Availability

/-!
# How far probes are apart

An unhealthy instance is probed once in a while.  If its probe ends in a success or in a
failure, the next one starts no sooner than `retryAfter` later: either the failure starts
the window over, or the instance has to fail anew first.  A probe that the instance refuses
for quota does neither.  It leaves the window open, and the next request to the instance is
a probe again.

## Main definitions

* `Station.FailedSince` — an instance that is unhealthy has failed at a given time or later.

## Main results

* `Ending.verdict_eq_neutral_iff` — only status 429 speaks neither for nor against an
  instance.
* `Simulation.rested_course` — whoever can be unhealthy only for a later failure is not
  probed before `retryAfter` has passed.
* `Simulation.probes_apart` — **two probes are `retryAfter` apart unless the first is
  refused for quota**, and what happens if it is.
-/

namespace PartitionRouting

open Std Simulation

/-- A status other than 429 speaks for or against the instance, and so does no answer. -/
theorem Ending.verdict_eq_neutral_iff {x : Ending} : x.verdict = .neutral ↔ x = .answered 429 := by
  cases x with
  | answered code =>
    rw [verdict, verdict_ofStatus, answered.injEq]
    split
    · next hgood =>
      have hne : code ≠ 429 := by
        rintro rfl
        exact absurd hgood (by decide)
      simp [hne]
    · split
      · next hquota => simp [hquota]
      · next hquota => simp [hquota]
  | broken cause => simp [verdict]
  | timedOut limit => simp [verdict]

/-! ### Stations -/

namespace Station

variable {settings : HealthSettings} {now t : Nat} {e : Endpoint} {st st' : Station}
  {o : Occurrence}

/-- If the instance is unhealthy, its last failure was noted at time `t` or later. -/
def FailedSince (t : Nat) (st : Station) : Prop :=
  st.record.state = .unhealthy → ∃ t', st.record.lastFailure = some t' ∧ t ≤ t'

/-- Whatever speaks for or against an instance settles whether it failed since. -/
theorem failedSince_judged {threshold : Nat} {f : Flight} (hf : f.ending ≠ .answered 429)
    (ht : t ≤ f.endsAt) (hst : (st.judged threshold f).state = .unhealthy) :
    ∃ t', (st.judged threshold f).lastFailure = some t' ∧ t ≤ t' := by
  rw [judged] at hst ⊢
  cases hverdict : f.ending.verdict with
  | success =>
    rw [hverdict] at hst
    contradiction
  | failure => exact ⟨f.endsAt, rfl, ht⟩
  | neutral => exact absurd (Ending.verdict_eq_neutral_iff.mp hverdict) hf

theorem judged_of_refused {threshold : Nat} {f : Flight} (hf : f.ending = .answered 429) :
    st.judged threshold f = st.record := by
  rw [judged, Ending.verdict_eq_neutral_iff.mpr hf]
  rfl

theorem failedSince_move (hm : Move settings now e st o st') (ht : t ≤ now)
    (hst : st.FailedSince t) : st'.FailedSince t := by
  cases hm with
  | other ho => exact hst
  | depart he hstart hprobe => exact hst
  | @land f he hf hdue haccepts =>
    by_cases hrefused : f.ending = .answered 429
    · rw [FailedSince, land, judged_of_refused hrefused]
      exact hst
    · exact failedSince_judged hrefused (hdue ▸ ht)
  | lose he hf hdue hrefuses => exact hst
  | drop he hf => exact hst

/-- A probe waits for the window that starts with the last failure. -/
theorem add_retryAfter_le_of_admitsProbe (hst : st.FailedSince t) (ht : t ≤ now) {retryAfter : Nat}
    (h : st.record.admitsProbe retryAfter now) : t + retryAfter ≤ now := by
  obtain ⟨hstate, -, hopen⟩ := HealthRecord.admitsProbe_iff.mp h
  obtain ⟨t', ht', hle⟩ := hst hstate
  rw [HealthRecord.retryWindowOpen, ht', decide_eq_true_eq] at hopen
  omega

/-- A request that has started after a move had started before, or it started now, as a
probe if the record admitted one. -/
theorem started_move (hm : Move settings now e st o st') {h : History} {s : Simulation}
    {f : Flight} (hf : f ∈ History.started (h ++ [⟨s, o⟩]) e) :
    f ∈ h.started e ∨
      f.startedAt = now ∧ f.probe = st.record.admitsProbe settings.retryAfter now := by
  refine (History.mem_requests_concat.mp hf).imp_right ?_
  rintro ⟨hstarted, he⟩
  -- of the moves that concern the instance only a departure starts a request
  cases hm with
  | other ho =>
    have hrequest := Occurrence.request?_eq_some_iff.mpr (Or.inl hstarted)
    exact absurd he (ho f hrequest)
  | depart _ hstart hprobe =>
    rw [← Option.some.inj hstarted]
    exact ⟨hstart, hprobe⟩
  | land _ _ _ _ => contradiction
  | lose _ _ _ _ => contradiction
  | drop _ _ => contradiction

end Station

/-! ### Runs -/

namespace Simulation

variable {settings : HealthSettings} {network : Network} {sink : Sink} {h h' : History}
  {s s' s'' : Simulation} {e : Endpoint} {f : Flight}

/-- **An instance that can be unhealthy only for a failure from now on is not probed before
`retryAfter` has passed.** -/
theorem rested_course (hs : s.Orderly) (hst : (s.station e).FailedSince s.clock)
    (hc : Course s h s') :
    ∀ g ∈ h.started e, g.probe → s.clock + s.monitor.settings.retryAfter ≤ g.startedAt := by
  -- the requests so far were late enough, and so will be those to come
  have hrested : (s'.station e).FailedSince s.clock ∧
      ∀ g ∈ h.started e, g.probe → s.clock + s.monitor.settings.retryAfter ≤ g.startedAt := by
    refine station_course (P := fun h st => st.FailedSince s.clock ∧
      ∀ g ∈ h.started e, g.probe → s.clock + s.monitor.settings.retryAfter ≤ g.startedAt)
      hs ⟨hst, nofun⟩ ?_ hc
    rintro h x o st' hx hm ⟨hsince, hprobes⟩
    have hclock : s.clock ≤ x.clock := clock_le_of_course hx
    refine ⟨Station.failedSince_move hm hclock hsince, fun g hg hprobe => ?_⟩
    rcases Station.started_move hm hg with hg | ⟨hnow, hadmits⟩
    · exact hprobes g hg hprobe
    · rw [hnow]
      exact Station.add_retryAfter_le_of_admitsProbe hsince hclock (hadmits ▸ hprobe)
  exact hrested.2

theorem station_landed (hs : s.Orderly) (hland : Step s (.landed f) s') :
    s'.station f.endpoint = (s.station f.endpoint).land s.monitor.settings.threshold f := by
  have hmove := station_step hland hs f.endpoint
  generalize s'.station f.endpoint = st' at hmove ⊢
  cases hmove with
  | other ho => exact absurd rfl (ho f rfl)
  | land he hf hdue haccepts => rfl

/-- A probe that is refused leaves the window as it is, and its instance without a probe. -/
theorem probe_newFlight_iff (hc : Course (fresh settings network sink) h s)
    (hland : Step s (.landed f) s') (hf : f.ending = .answered 429) (hprobe : f.probe)
    (hs' : s'.monitor.state? f.endpoint = some .unhealthy) (label : Option String) :
    (s'.newFlight label f.endpoint).probe ↔
      h.WindowOpen settings.retryAfter s'.clock f.endpoint := by
  -- the refusal frees the slot of the probe and changes nothing else
  have hrecord : s'.monitor.record f.endpoint =
      (s.monitor.record f.endpoint).release f.probe := by
    have hstation := station_landed (orderly_course hc (orderly_fresh ..)) hland
    have hrecord := congrArg Station.record hstation
    rw [Station.land, Station.judged_of_refused hf] at hrecord
    exact hrecord
  have hfree : (s'.monitor.record f.endpoint).probing = false := by
    rw [hrecord, HealthRecord.release, hprobe, Bool.not_true, Bool.and_false]
  have hkept : History.lastFailure? (h ++ [⟨s, .landed f⟩]) f.endpoint =
      h.lastFailure? f.endpoint := by
    rw [lastFailure?_of_step (orderly_course hc (orderly_fresh ..)) hland, if_neg]
    simp [Occurrence.fails, hf, Ending.isFailure]
  have hc' := hc.step hland
  have hsettings : s'.monitor.settings = settings := settings_course hc'
  have hopen : (s'.monitor.record f.endpoint).retryWindowOpen settings.retryAfter s'.clock ↔
      h.WindowOpen settings.retryAfter s'.clock f.endpoint := by
    rw [retryWindowOpen_record_iff hc' hs', History.WindowOpen, hkept]
    rfl
  show (s'.monitor.record f.endpoint).admitsProbe s'.monitor.settings.retryAfter s'.clock ↔ _
  rw [HealthRecord.admitsProbe_iff, hsettings, hopen]
  exact ⟨fun h => h.2.2, fun hwindow => ⟨state_record_of_state? hs', hfree, hwindow⟩⟩

/-- **What a request that ends means for the next probe of its instance.**  If it is not
refused for quota, no probe starts before `retryAfter` has passed.  If it is refused, and it
was the probe of an instance that stays unhealthy, the next request is a probe as soon as
the window that the last failure opened allows it. -/
theorem probes_apart (hc : Course (fresh settings network sink) h s)
    (hland : Step s (.landed f) s') (hc' : Course s' h' s'') :
    (f.ending ≠ .answered 429 → ∀ g ∈ h'.started f.endpoint, g.probe →
        f.endsAt + settings.retryAfter ≤ g.startedAt) ∧
      (f.ending = .answered 429 → f.probe → s'.monitor.state? f.endpoint = some .unhealthy →
        ∀ label, (s'.newFlight label f.endpoint).probe ↔
          h.WindowOpen settings.retryAfter f.endsAt f.endpoint) := by
  have hs : s.Orderly := orderly_course hc (orderly_fresh settings network sink)
  have hclock : s'.clock = f.endsAt := clock_eq_of_landed hs hland
  refine ⟨fun hf => ?_, fun hf hprobe hs' label => ?_⟩
  · have hsettings : s'.monitor.settings = settings := settings_course (hc.step hland)
    have hsince : (s'.station f.endpoint).FailedSince s'.clock := by
      rw [station_landed hs hland]
      exact Station.failedSince_judged hf (Nat.le_of_eq hclock)
    rw [← hclock, ← hsettings]
    exact rested_course (orderly_step hland hs) hsince hc'
  · rw [← hclock]
    exact probe_newFlight_iff hc hland hf hprobe hs' label

/-- After a probe that fails the next one starts when the window has passed, to the
millisecond. -/
theorem probes_apart_of_failed_probe :
    let failing : Behaviour := { status := 503 }
    let s₀ := fresh { unhealthyAfterFailures := 1, retryUnhealthyAfterMs := 10 }
      { behaviours := .ofList [("a", failing)] } .discarding
    let as : List Action :=
      [.send "a", .advance 10, .change "a" (.latency (.ofMillis 5)), .start "probe" "a"]
    let s := (s₀.run as).value.later 15
    let f : Flight :=
      { label := some "probe", endpoint := "a", startedAt := 10
        behaviour := { status := 503, latency := .ofMillis 5 }, timeout := 5000, probe := true }
    let s' := ((s.without f).land f (.answered 503)).value
    let bs : List Action := [.change "a" (.latency .zero), .advance 10, .send "a"]
    (∀ g ∈ (s'.history bs).started "a", g.probe → 25 ≤ g.startedAt) ∧
      ∃ g ∈ (s'.history bs).started "a", g.probe ∧ g.startedAt = 25 := by
  intro failing s₀ as s f s' bs
  have hs₀ : s₀.Orderly := orderly_fresh ..
  have hflights : (s₀.run as).value.flights = [f] := by decide +kernel
  -- five milliseconds later the probe is due
  have hwait : Step (s₀.run as).value (.waited 15) s := by
    refine step_wait (by decide +kernel) ?_
    rw [hflights]
    exact List.forall_mem_singleton.mpr (by decide)
  have has := (course_history hs₀ as).step hwait
  have hf : f ∈ s.flights := by decide +kernel
  have hland : Step s (.landed f) s' := Step.land hf (by decide +kernel) (by decide +kernel)
  have hs' : s'.Orderly := orderly_step hland (orderly_course has hs₀)
  have hends : f.endsAt = 15 := by decide
  have hapart := (probes_apart has hland (course_history hs' bs)).1 (by decide)
  rw [hends] at hapart
  refine ⟨hapart, ?_⟩
  decide +kernel

/-- After a probe that is refused for quota the next one starts at once, although requests
are sent only where the monitor allows it and the window has to pass. -/
theorem probes_not_apart_of_refused_probe :
    let failing : Behaviour := { status := 503 }
    let s := fresh { unhealthyAfterFailures := 1, retryUnhealthyAfterMs := 10 }
      { behaviours := .ofList [("a", failing)] } .discarding
    let as : List Action := [.send "a", .advance 10, .change "a" (.status 429), .send "a"]
    let bs : List Action := as ++ [.advance 3, .send "a"]
    let f : Flight :=
      { label := none, endpoint := "a", startedAt := 10, behaviour := { status := 429 }
        timeout := 5000, probe := true }
    let g : Flight := { f with startedAt := 13 }
    (s.history bs).Routed "a" ∧ ((s.history as).completed "a").getLast? = some f ∧
      (s.run as).value.monitor.state? "a" = some .unhealthy ∧
      (s.history bs).started "a" = (s.history as).started "a" ++ [g] ∧
      f.probe ∧ g.probe ∧ f.endsAt ≤ g.startedAt ∧ g.startedAt < f.endsAt + 10 := by
  decide +kernel

end Simulation
end PartitionRouting
