import PartitionRouting.Proofs.Simulation.Station

/-!
# The judgement of an instance is a function of what its requests ended in

What the monitor thinks of an instance depends on two things alone: whether a request to
it was ever started, and how the requests to it ended, in the order in which they did.

## Main definitions

* `Ending.isSuccess`, `Ending.isFailure` — which ends speak for and against an instance.
* `failuresSinceSuccess` — the failures after the last success.
* `decisive` — the ends that make a difference.
* `History.judgement` — what an instance is to be judged to be after a history.
* `Station.JudgedBy` — how a health record agrees with a history.

## Main results

* `Station.judgedBy_move` — a step keeps the agreement up.
* `Simulation.state?_eq_judgement` — **the monitor judges by the history of ends**, and
  nothing else that happened makes a difference.
-/

namespace PartitionRouting

open Std Simulation

/-! ### Ends -/

namespace Ending

/-- A status from 200 to 299, or 404. -/
def isSuccess : Ending → Bool
  | answered code => code.toNat / 100 = 2 ∨ code.toNat = 404
  | broken _ => false
  | timedOut _ => false

/-- Any other status but 429, or no answer. -/
def isFailure : Ending → Bool
  | answered code => ¬(code.toNat / 100 = 2 ∨ code.toNat = 404) ∧ code.toNat ≠ 429
  | broken _ => true
  | timedOut _ => true

/-- No end speaks both for and against an instance. -/
theorem isFailure_eq_false {x : Ending} (hx : x.isSuccess) : x.isFailure = false := by
  cases x with
  | answered code =>
    have hgood := of_decide_eq_true hx
    exact decide_eq_false fun h => h.1 hgood
  | broken cause => contradiction
  | timedOut limit => contradiction

theorem verdict_ofStatus (code : StatusCode) :
    (Outcome.ofStatus code).verdict =
      if (200 ≤ code ∧ code ≤ 299) ∨ code = 404 then .success
      else if code = 429 then .neutral
      else .failure := by
  unfold Outcome.ofStatus
  repeat' split
  all_goals rfl

theorem verdict_eq (x : Ending) :
    x.verdict = if x.isSuccess then .success else if x.isFailure then .failure else .neutral := by
  cases x with
  | answered code =>
    -- the class of a code is found by comparing words; here it is said of numbers
    have hrange : (200 ≤ code ∧ code ≤ 299) ↔ code.toNat / 100 = 2 := by
      rw [UInt16.le_iff_toNat_le, UInt16.le_iff_toNat_le]
      simp
      omega
    have hmissing : code = 404 ↔ code.toNat = 404 := UInt16.toNat_inj.symm
    have hquota : code = 429 ↔ code.toNat = 429 := UInt16.toNat_inj.symm
    rw [verdict, verdict_ofStatus]
    simp only [hrange, hmissing, hquota, isSuccess, isFailure, decide_eq_true_eq]
    by_cases hgood : code.toNat / 100 = 2 ∨ code.toNat = 404
    · rw [if_pos hgood, if_pos hgood]
    · rw [if_neg hgood, if_neg hgood]
      by_cases hneutral : code.toNat = 429
      · rw [if_pos hneutral, if_neg fun h => h.2 hneutral]
      · rw [if_neg hneutral, if_pos ⟨hgood, hneutral⟩]
  | broken cause => rfl
  | timedOut limit => rfl

end Ending

/-- The number of failures after the last success, or since the beginning if there was
none. -/
def failuresSinceSuccess (xs : List Ending) : Nat :=
  (xs.reverse.takeWhile (!·.isSuccess)).countP (·.isFailure)

theorem failuresSinceSuccess_concat (xs : List Ending) (x : Ending) :
    failuresSinceSuccess (xs ++ [x]) =
      if x.isSuccess then 0
      else if x.isFailure then failuresSinceSuccess xs + 1
      else failuresSinceSuccess xs := by
  rw [failuresSinceSuccess, List.reverse_append, List.reverse_singleton, List.singleton_append,
    List.takeWhile_cons]
  cases hsuccess : x.isSuccess with
  | true => rfl
  | false =>
    rw [Bool.not_false, if_pos rfl, List.countP_cons]
    cases x.isFailure <;> rfl

/-- For each end that speaks for or against an instance, whether it speaks for it. -/
def decisive (xs : List Ending) : List Bool :=
  (xs.filter fun x => x.isSuccess || x.isFailure).map (·.isSuccess)

/-- Only the ends that speak for or against an instance make a difference. -/
theorem failuresSinceSuccess_eq (xs : List Ending) :
    failuresSinceSuccess xs = ((decisive xs).reverse.takeWhile (!·)).length := by
  rw [failuresSinceSuccess, decisive, ← List.map_reverse, ← List.filter_reverse]
  -- what remains is said of the ends from the last to the first
  induction xs.reverse with
  | nil => rfl
  | cons x rest ih =>
    cases hsuccess : x.isSuccess with
    | true => simp [hsuccess]
    | false =>
      cases hfailure : x.isFailure with
      | true => simp [hsuccess, hfailure, ih]
      | false => simp [hsuccess, hfailure, ih]

namespace Simulation.History

/-- How the requests to `e` ended that completed, in order. -/
def endings (h : History) (e : Endpoint) : List Ending := (h.completed e).map (·.ending)

/-- **What `e` is to be judged to be** if `threshold` failures in a row are too many. -/
def judgement (h : History) (threshold : Nat) (e : Endpoint) : Option HealthState :=
  if h.started e = [] then none
  else if max 1 threshold ≤ failuresSinceSuccess (h.endings e) then some .unhealthy
  else some .healthy

theorem judgement_congr {h h' : History} {e e' : Endpoint} (threshold : Nat)
    (hstarted : h'.started e' = [] ↔ h.started e = [])
    (hdecisive : decisive (h'.endings e') = decisive (h.endings e)) :
    h'.judgement threshold e' = h.judgement threshold e := by
  simp only [judgement, failuresSinceSuccess_eq, hstarted, hdecisive]

end Simulation.History

/-! ### Stations -/

namespace Station

/-- **The health record of an instance agrees with the history of its requests.** -/
structure JudgedBy (h : History) (threshold : Nat) (e : Endpoint) (st : Station) : Prop where
  /-- There is a record once a request started. -/
  contacted : st.contacted = false ↔ h.started e = []
  /-- The record counts the failures after the last success. -/
  failures : st.record.failures = failuresSinceSuccess (h.endings e)
  /-- Too many failures make the instance unhealthy, and one is needed in any case. -/
  unhealthy : st.record.state = .unhealthy ↔ max 1 threshold ≤ st.record.failures

variable {settings : HealthSettings} {now : Nat} {e : Endpoint} {st st' : Station}
  {h h' : History} {o : Occurrence}

theorem JudgedBy.congr {threshold : Nat} (hj : JudgedBy h threshold e st)
    (hstarted : h'.started e = h.started e) (hcompleted : h'.completed e = h.completed e) :
    JudgedBy h' threshold e st where
  contacted := by rw [hstarted]; exact hj.contacted
  failures := by rw [History.endings, hcompleted]; exact hj.failures
  unhealthy := hj.unhealthy

/-- A verdict counts a failure, forgets the failures before a success, and does nothing
else to the count. -/
theorem failures_judged (st : Station) (threshold : Nat) (f : Flight) :
    (st.judged threshold f).failures =
      if f.ending.isSuccess then 0
      else if f.ending.isFailure then st.record.failures + 1
      else st.record.failures := by
  rw [judged, Ending.verdict_eq]
  split
  · rfl
  · split <;> rfl

theorem unhealthy_judged {threshold : Nat} (f : Flight)
    (h : st.record.state = .unhealthy ↔ max 1 threshold ≤ st.record.failures) :
    (st.judged threshold f).state = .unhealthy ↔
      max 1 threshold ≤ (st.judged threshold f).failures := by
  rw [judged]
  cases f.ending.verdict with
  | success => simp [HealthRecord.judge, HealthRecord.succeed]
  | failure =>
    -- the state is sticky: below the threshold it was healthy already
    simp only [HealthRecord.judge, HealthRecord.fail]
    split
    · next hle =>
      have : max 1 threshold ≤ st.record.failures + 1 := by omega
      simp [this]
    · next hlt =>
      rw [h]
      omega
  | neutral => exact h

theorem judgedBy_move (hm : Move settings now e st o st') (hj : JudgedBy h settings.threshold e st)
    (s : Simulation) : JudgedBy (h ++ [⟨s, o⟩]) settings.threshold e st' := by
  cases hm with
  | other ho =>
    obtain ⟨hstarted, hcompleted, -, -⟩ := History.concat_of_other (h := h) (s := s) ho
    exact hj.congr hstarted hcompleted
  | @depart f he hstart hprobe =>
    obtain ⟨hstarted, hcompleted, -, -⟩ := History.concat_departed (h := h) (s := s) he
    refine ⟨?_, ?_, hj.unhealthy⟩
    · rw [hstarted]
      simp [depart]
    · rw [History.endings, hcompleted]
      exact hj.failures
  | @land f he hf hdue haccepts =>
    obtain ⟨hstarted, hcompleted, -, -⟩ := History.concat_landed (h := h) (s := s) he
    refine ⟨?_, ?_, unhealthy_judged f hj.unhealthy⟩
    · rw [hstarted]
      exact hj.contacted
    · rw [History.endings, hcompleted, List.map_append, List.map_singleton,
        failuresSinceSuccess_concat, ← History.endings, ← hj.failures]
      exact failures_judged st settings.threshold f
  | @lose f he hf hdue hrefuses =>
    -- a request that is not judged changes neither the count nor the state
    obtain ⟨hstarted, hcompleted, -, -⟩ := History.concat_lost (h := h) (s := s) he
    obtain ⟨hcontacted, hfailures, hunhealthy⟩ := hj.congr hstarted hcompleted
    exact ⟨hcontacted, hfailures, hunhealthy⟩
  | @drop f he hf =>
    obtain ⟨hstarted, hcompleted, -, -⟩ := History.concat_dropped (h := h) (s := s) he
    obtain ⟨hcontacted, hfailures, hunhealthy⟩ := hj.congr hstarted hcompleted
    exact ⟨hcontacted, hfailures, hunhealthy⟩

/-- A station that agrees with a history is judged accordingly. -/
theorem JudgedBy.state_eq {threshold : Nat} (hj : JudgedBy h threshold e st) :
    (if st.contacted then some st.record.state else none) = h.judgement threshold e := by
  obtain ⟨hcontacted, hfailures, hunhealthy⟩ := hj
  rw [hfailures] at hunhealthy
  rw [History.judgement]
  by_cases hstarted : h.started e = []
  · rw [if_pos hstarted, hcontacted.mpr hstarted]
    rfl
  · have htrue : st.contacted = true := by
      rw [← Bool.not_eq_false]
      exact fun hfalse => hstarted (hcontacted.mp hfalse)
    rw [if_neg hstarted, if_pos htrue]
    split
    · next hle => rw [hunhealthy.mpr hle]
    · next hlt =>
      cases hstate : st.record.state with
      | healthy => rfl
      | unhealthy => exact absurd (hunhealthy.mp hstate) hlt

end Station

/-! ### Runs -/

namespace Simulation

theorem judgedBy_course {settings : HealthSettings} {network : Network} {sink : Sink}
    {h : History} {s : Simulation} (hc : Course (fresh settings network sink) h s)
    (e : Endpoint) : (s.station e).JudgedBy h settings.threshold e := by
  refine station_course (P := fun h st => st.JudgedBy h settings.threshold e)
    (orderly_fresh settings network sink) ?_ ?_ hc
  · refine ⟨?_, rfl, ?_⟩
    · exact iff_of_true rfl rfl
    · refine iff_of_false nofun ?_
      intro hle
      have : 1 ≤ 0 := Nat.le_trans (Nat.le_max_left 1 settings.threshold) hle
      omega
  · intro h s o st' _ hm hj
    exact Station.judgedBy_move hm hj s

theorem state?_eq_judgement {settings : HealthSettings} {network : Network} {sink : Sink}
    {h : History} {s : Simulation} (hc : Course (fresh settings network sink) h s)
    (e : Endpoint) : s.monitor.state? e = h.judgement settings.threshold e := by
  rw [s.state?_eq]
  exact (judgedBy_course hc e).state_eq

/-- **An instance is judged by the history of the ends of its requests.**  In another
simulation an instance is judged the same if the same ends spoke for or against it in the
same order: other ends, dropped requests, the times at which requests started or ended, and
which of them were probes make no difference. -/
theorem judged_by_history {settings : HealthSettings} {network : Network} {sink : Sink}
    {h : History} {s : Simulation} (hc : Course (fresh settings network sink) h s)
    (e : Endpoint) :
    s.monitor.state? e = h.judgement settings.threshold e ∧
      ∀ {settings' : HealthSettings} {network' : Network} {sink' : Sink} {h' : History}
        {s' : Simulation} {e' : Endpoint}, Course (fresh settings' network' sink') h' s' →
        settings'.threshold = settings.threshold →
        (h'.started e' = [] ↔ h.started e = []) →
        decisive (h'.endings e') = decisive (h.endings e) →
        s'.monitor.state? e' = s.monitor.state? e := by
  refine ⟨state?_eq_judgement hc e, ?_⟩
  intro settings' network' sink' h' s' e' hc' hthreshold hstarted hdecisive
  calc s'.monitor.state? e'
    _ = h'.judgement settings'.threshold e' := state?_eq_judgement hc' e'
    _ = h.judgement settings'.threshold e := History.judgement_congr _ hstarted hdecisive
    _ = h.judgement settings.threshold e := by rw [hthreshold]
    _ = s.monitor.state? e := (state?_eq_judgement hc e).symm

/-- An answer from before the outage ends the outage, with or without a refused and a
dropped request in between. -/
theorem judged_by_history_of_late_success :
    let slow : Behaviour := { latency := .ofMillis 40 }
    let s := fresh { unhealthyAfterFailures := 2 } { behaviours := .ofList [("a", slow)] }
      .discarding
    let as : List Action := [.start "late" "a", .change "a" (.latency .zero),
      .change "a" (.status 503), .send "a", .send "a", .join "late", .send "a"]
    let bs : List Action := [.start "late" "a", .start "dropped" "a",
      .change "a" (.latency (.ofMillis 10)), .change "a" (.faulty true), .send "a", .send "a",
      .cancel "dropped", .join "late", .change "a" (.faulty false), .change "a" (.status 429),
      .send "a", .change "a" (.status 500), .send "a"]
    (s.run as).value.monitor.state? "a" = (s.history as).judgement 2 "a" ∧
      (s.run bs).value.monitor.state? "a" = (s.run as).value.monitor.state? "a" := by
  intro slow s as bs
  have has : Course s (s.history as) (s.run as).value := course_history (orderly_fresh ..) as
  have hbs : Course s (s.history bs) (s.run bs).value := course_history (orderly_fresh ..) bs
  obtain ⟨hjudged, hsame⟩ := judged_by_history has "a"
  refine ⟨hjudged, hsame hbs rfl ?_ ?_⟩
  · decide +kernel
  · decide +kernel

end Simulation
end PartitionRouting
