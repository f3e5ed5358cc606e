import Mathlib.Algebra.GroupWithZero.Nat
import PartitionRouting.Proofs.Simulation.Station

/-!
# Every request is accounted for

A request that started is in flight until it ends or is dropped; it holds one of the
slots of its instance for exactly that long.  The network counts it once, and the
counters count it once when it starts and once more, under a single measure, when it
ends.

## Main definitions

* `Measure.ends` — what the end of a request can be counted as.
* `History.waitingTime` — the time that the requests to an instance took that have ended.
* `History.TimeFits` — this time can be added to what was counted at first.
* `Station.Accounts`, `Tally.Counts` — how the station of an instance and its counters
  agree with the history of its requests; `Station.Waited` — the total time alone.

## Main results

* `Station.accounts_move` — a step keeps the agreement up.
* `Simulation.requests_course` — a request that started has ended in one way or is in flight.
* `Simulation.waited_course` — the times of the requests that completed are added up, and no
  request is lost while the times of all of them can be kept.
* `Simulation.requests_accounted` — **every request that started is in flight, was
  counted under one measure at its end, or was dropped.**
-/

namespace PartitionRouting

open Std Simulation

/-- The time that the requests to `e` took that have ended. -/
def Simulation.History.waitingTime (h : History) (e : Endpoint) : Duration :=
  ⟨((h.completed e ++ h.lost e).map fun f => f.time.nanos).sum⟩

/-- The time that the requests to `e` took that have ended can be added to counters that were
`t₀` at first, if there are any. -/
def Simulation.History.TimeFits (h : History) (t₀ : Option Tally) (e : Endpoint) : Prop :=
  ∀ t ∈ t₀, (t.waitingTime + h.waitingTime e).fits

/-! ### Counters -/

namespace Measure

/-- What the end of a request can be counted as. -/
def ends : List Measure :=
  [.outcome .healthy, .outcome .quotaExceeded, .outcome .internalServerError,
    .outcome .serviceUnavailable, .outcome .otherError, .leaked]

theorem mem_ends_iff {m : Measure} : m ∈ ends ↔ (∃ o, m = .outcome o) ∨ m = .leaked := by
  constructor
  · intro hm
    simp only [ends, List.mem_cons, List.not_mem_nil, or_false] at hm
    rcases hm with rfl | rfl | rfl | rfl | rfl | rfl <;> simp
  · rintro (⟨o, rfl⟩ | rfl)
    · cases o <;> decide
    · decide

theorem nanos_of_mem_ends {m : Measure} (hm : m ∈ ends) : m.nanos = 0 := by
  rcases mem_ends_iff.mp hm with ⟨o, rfl⟩ | rfl <;> rfl

end Measure

theorem Ending.measure_mem_ends (x : Ending) : x.measure ∈ Measure.ends := by
  cases x with
  | answered code => exact Measure.mem_ends_iff.mpr (Or.inl ⟨_, rfl⟩)
  | broken cause => exact Measure.mem_ends_iff.mpr (Or.inl ⟨_, rfl⟩)
  | timedOut limit => exact Measure.mem_ends_iff.mpr (Or.inr rfl)

/-- However a request ends, its end is counted as one thing. -/
theorem length_eq_sum_ends (l : List Flight) :
    l.length = (Measure.ends.map fun m => l.countP (·.ending.measure = m)).sum := by
  induction l with
  | nil => rfl
  | cons f rest ih =>
    -- the sum grows by one, in the place of the measure that the end is counted as
    have hf := f.ending.measure_mem_ends
    simp only [Measure.ends, List.map_cons, List.map_nil, List.sum_cons, List.sum_nil] at ih ⊢
    simp only [List.countP_cons, List.length_cons, decide_eq_true_eq]
    generalize f.ending.measure = m at hf ⊢
    simp only [Measure.ends, List.mem_cons, List.not_mem_nil, or_false] at hf
    rcases hf with rfl | rfl | rfl | rfl | rfl | rfl <;>
      simp only [reduceCtorEq, Measure.outcome.injEq, if_true, if_false] <;> omega

namespace Tally

/-- **The counters of an instance agree with the history of its requests.** -/
structure Counts (h : History) (e : Endpoint) (t : Tally) : Prop where
  /-- The requests sent are those that started. -/
  requests : t.requests = (h.started e).length
  /-- The end of each request that completed is counted. -/
  ends : ∀ m ∈ Measure.ends, t.count m = (h.completed e).countP (·.ending.measure = m)
  /-- The time of each request that completed is counted. -/
  waitingTime : t.waitingTime.nanos = ((h.completed e).map fun f => f.time.nanos).sum

theorem counts_empty (e : Endpoint) : Counts [] e {} where
  requests := rfl
  ends m hm := by
    rcases Measure.mem_ends_iff.mp hm with ⟨o, rfl⟩ | rfl
    · cases o <;> rfl
    · rfl
  waitingTime := rfl

variable {h h' : History} {e : Endpoint} {t : Tally} {f : Flight}

theorem Counts.congr (ht : Counts h e t) (hstarted : h'.started e = h.started e)
    (hcompleted : h'.completed e = h.completed e) : Counts h' e t where
  requests := by rw [hstarted, ht.requests]
  ends := by rw [hcompleted]; exact ht.ends
  waitingTime := by rw [hcompleted, ht.waitingTime]

/-- The counters of ends count each completed request once. -/
theorem Counts.length_completed (ht : Counts h e t) :
    (h.completed e).length =
      t.healthy + t.quotaExceeded + t.internalServerError + t.serviceUnavailable +
        t.otherError + t.leaked := by
  have hends : (Measure.ends.map fun m => (h.completed e).countP (·.ending.measure = m)) =
      Measure.ends.map t.count := List.map_congr_left fun m hm => (ht.ends m hm).symm
  rw [length_eq_sum_ends, hends]
  simp only [Measure.ends, List.map_cons, List.map_nil, List.sum_cons, List.sum_nil, count]
  omega

/-- A start is counted as a request. -/
theorem Counts.request (ht : Counts h e t) (hstarted : h'.started e = h.started e ++ [f])
    (hcompleted : h'.completed e = h.completed e) : Counts h' e (t.add .request) where
  requests := by
    rw [hstarted, List.length_append, ← ht.requests]
    rfl
  ends m hm := by
    rw [hcompleted, ← ht.ends m hm]
    rcases Measure.mem_ends_iff.mp hm with ⟨o, rfl⟩ | rfl
    · exact count_add t .request nofun
    · exact count_add t .request nofun
  waitingTime := by
    rw [hcompleted, ← ht.waitingTime]
    exact nanos_waitingTime_add t .request

end Tally

/-! ### Stations -/

namespace Station

/-- What is counted at the end of a flight besides its time and a change of judgement. -/
theorem countP_measures (st : Station) (threshold : Nat) (f : Flight) {m : Measure}
    (hwaited : ∀ d, m ≠ .waited d) (hmoved : ∀ state, m ≠ .movedTo state) :
    (st.measures threshold f).countP (· = m) = if f.ending.measure = m then 1 else 0 := by
  have hnone : ∀ l : List HealthState, (l.map Measure.movedTo).countP (· = m) = 0 := by
    intro l
    rw [List.countP_eq_zero]
    rintro x hx heq
    obtain ⟨state, -, rfl⟩ := List.mem_map.mp hx
    exact hmoved state (of_decide_eq_true heq).symm
  rw [measures, List.countP_cons, List.countP_cons, hnone]
  simp only [decide_eq_true_eq, (hwaited _).symm, if_false, Nat.zero_add, Nat.add_zero]

theorem nanos_measures (st : Station) (threshold : Nat) (f : Flight) :
    ((st.measures threshold f).map Measure.nanos).sum = f.time.nanos := by
  have hending := Measure.nanos_of_mem_ends f.ending.measure_mem_ends
  rw [measures, List.map_cons, List.map_cons, List.sum_cons, List.sum_cons, hending]
  cases st.record.moveTo? (st.judged threshold f) with
  | none => simp
  | some state => simp

/-- The end of a flight is counted once. -/
theorem count_addAll_measures (st : Station) (threshold : Nat) (f : Flight) (t : Tally)
    {m : Measure} (hm : m ∈ Measure.ends) :
    (t.addAll (st.measures threshold f)).count m =
      t.count m + if f.ending.measure = m then 1 else 0 := by
  have hwaited : ∀ d, m ≠ .waited d := by
    rcases Measure.mem_ends_iff.mp hm with ⟨o, rfl⟩ | rfl <;> exact nofun
  have hmoved : ∀ state, m ≠ .movedTo state := by
    rcases Measure.mem_ends_iff.mp hm with ⟨o, rfl⟩ | rfl <;> exact nofun
  rw [t.count_addAll _ hwaited, st.countP_measures threshold f hwaited hmoved]

/-- The end of a request that completed is counted once, and so is its time. -/
theorem counts_measures {h h' : History} {e : Endpoint} {t : Tally} (ht : t.Counts h e)
    (st : Station) (threshold : Nat) {f : Flight} (hstarted : h'.started e = h.started e)
    (hcompleted : h'.completed e = h.completed e ++ [f]) :
    (t.addAll (st.measures threshold f)).Counts h' e where
  requests := by
    have hnot : f.ending.measure ≠ .request := by cases f.ending <;> exact nofun
    have hcount := t.count_addAll (st.measures threshold f) (x := .request) nofun
    rw [st.countP_measures threshold f (m := .request) nofun nofun, if_neg hnot] at hcount
    rw [hstarted, ← ht.requests]
    exact hcount
  ends m hm := by
    rw [st.count_addAll_measures threshold f t hm, ht.ends m hm, hcompleted, List.countP_append,
      List.countP_singleton]
    simp only [decide_eq_true_eq]
  waitingTime := by
    rw [t.nanos_waitingTime_addAll, st.nanos_measures, ht.waitingTime, hcompleted,
      List.map_append, List.sum_append, List.map_singleton, List.sum_singleton]

/-- **The station of an instance agrees with the history of its requests.** -/
structure Accounts (h : History) (e : Endpoint) (st : Station) : Prop where
  /-- A request that started completed, was lost or dropped, or is in flight. -/
  requests : (h.started e).Perm (h.completed e ++ h.lost e ++ h.cancelled e ++ st.flights)
  /-- The slots that are taken are those of the flights. -/
  pending : st.record.pending = st.flights.length
  /-- Every request that started was delivered. -/
  calls : st.calls = (h.started e).length
  /-- The counters agree with the history. -/
  tally : ∃ t ∈ st.tally, t.Counts h e

variable {settings : HealthSettings} {now : Nat} {e : Endpoint} {st st' : Station}
  {h h' : History} {o : Occurrence}

open scoped List in
/-- A request that leaves the list of flights in some way is listed as having ended in
that way. -/
theorem perm_erase {f : Flight} {started ended ended' flights : List Flight}
    (h : started ~ ended ++ flights) (hf : f ∈ flights) (hended : ended' ~ f :: ended) :
    started ~ ended' ++ flights.erase f :=
  calc started
    _ ~ ended ++ flights := h
    _ ~ ended ++ f :: flights.erase f := (List.perm_cons_erase hf).append_left ended
    _ ~ f :: ended ++ flights.erase f := List.perm_middle
    _ ~ ended' ++ flights.erase f := hended.symm.append_right _

open scoped List in
/-- A request that starts is in flight. -/
theorem perm_schedule_of_started {f : Flight} {started ended flights : List Flight}
    (h : started ~ ended ++ flights) : started ++ [f] ~ ended ++ schedule f flights :=
  calc started ++ [f]
    _ ~ f :: started := List.perm_append_singleton f started
    _ ~ f :: (ended ++ flights) := h.cons f
    _ ~ ended ++ f :: flights := List.perm_middle.symm
    _ ~ ended ++ schedule f flights := (perm_schedule f flights).symm.append_left ended

/-- A verdict leaves the slots as they are. -/
theorem pending_judged (st : Station) (threshold : Nat) (f : Flight) :
    (st.judged threshold f).pending = st.record.pending := by
  rw [judged]
  cases f.ending.verdict <;> rfl

theorem pending_erase {f : Flight} (hpending : st.record.pending = st.flights.length)
    (hf : f ∈ st.flights) : st.record.pending - 1 = (st.flights.erase f).length := by
  rw [hpending, List.length_erase_of_mem hf]

/-- The slots that are taken stay those of the flights. -/
theorem pending_move (hm : Move settings now e st o st')
    (hpending : st.record.pending = st.flights.length) :
    st'.record.pending = st'.flights.length := by
  cases hm with
  | other ho => exact hpending
  | @depart f he hstart hprobe =>
    have hlength := (perm_schedule f st.flights).length_eq
    rw [List.length_cons, ← hpending] at hlength
    exact hlength.symm
  | @land f he hf hdue haccepts =>
    have hslot := pending_erase hpending hf
    rw [← pending_judged st settings.threshold f] at hslot
    exact hslot
  | lose he hf hdue hrefuses => exact pending_erase hpending hf
  | drop he hf => exact pending_erase hpending hf

/-- A request that ends or is dropped moves from the flights to those that ended that way. -/
theorem requests_move (hm : Move settings now e st o st')
    (hrequests : (h.started e).Perm (h.completed e ++ h.lost e ++ h.cancelled e ++ st.flights))
    (s : Simulation) :
    let h' : History := h ++ [⟨s, o⟩]
    (h'.started e).Perm (h'.completed e ++ h'.lost e ++ h'.cancelled e ++ st'.flights) := by
  intro h'
  -- a request joins the flights, or it leaves them for one of the other lists
  cases hm with
  | other ho =>
    obtain ⟨hstarted, hcompleted, hlost, hcancelled⟩ := History.concat_of_other (h := h) (s := s) ho
    rw [hstarted, hcompleted, hlost, hcancelled]
    exact hrequests
  | @depart f he hstart hprobe =>
    obtain ⟨hstarted, hcompleted, hlost, hcancelled⟩ := History.concat_departed (h := h) (s := s) he
    rw [hstarted, hcompleted, hlost, hcancelled]
    exact perm_schedule_of_started hrequests
  | @land f he hf hdue haccepts =>
    obtain ⟨hstarted, hcompleted, hlost, hcancelled⟩ := History.concat_landed (h := h) (s := s) he
    rw [hstarted, hcompleted, hlost, hcancelled]
    refine perm_erase hrequests hf ?_
    simp only [List.append_assoc, List.singleton_append]
    exact List.perm_middle
  | @lose f he hf hdue hrefuses =>
    obtain ⟨hstarted, hcompleted, hlost, hcancelled⟩ := History.concat_lost (h := h) (s := s) he
    rw [hstarted, hcompleted, hlost, hcancelled]
    refine perm_erase hrequests hf ?_
    rw [← List.append_assoc, List.append_assoc]
    exact List.perm_middle
  | @drop f he hf =>
    obtain ⟨hstarted, hcompleted, hlost, hcancelled⟩ := History.concat_dropped (h := h) (s := s) he
    rw [hstarted, hcompleted, hlost, hcancelled]
    refine perm_erase hrequests hf ?_
    rw [← List.append_assoc]
    exact List.perm_append_singleton f _

theorem accounts_move (hm : Move settings now e st o st') (ha : Accounts h e st)
    (s : Simulation) : Accounts (h ++ [⟨s, o⟩]) e st' := by
  have hpending := pending_move hm ha.pending
  have hrequests := requests_move hm ha.requests s
  obtain ⟨-, -, hcalls, t, ht, hcounts⟩ := ha
  cases hm with
  | other ho =>
    obtain ⟨hstarted, hcompleted, -, -⟩ := History.concat_of_other (h := h) (s := s) ho
    refine ⟨hrequests, hpending, ?_, t, ht, hcounts.congr hstarted hcompleted⟩
    rw [hstarted]
    exact hcalls
  | @depart f he hstart hprobe =>
    obtain ⟨hstarted, hcompleted, -, -⟩ := History.concat_departed (h := h) (s := s) he
    have hcounts' := hcounts.request hstarted hcompleted
    refine ⟨hrequests, hpending, ?_, t.add .request, Option.mem_map_of_mem _ ht, hcounts'⟩
    rw [hstarted, List.length_append, ← hcalls]
    rfl
  | @land f he hf hdue hfits =>
    obtain ⟨hstarted, hcompleted, -, -⟩ := History.concat_landed (h := h) (s := s) he
    have hcounts' := counts_measures hcounts st settings.threshold hstarted hcompleted
    refine ⟨hrequests, hpending, ?_, _, Option.mem_map_of_mem _ ht, hcounts'⟩
    rw [hstarted]
    exact hcalls
  | @lose f he hf hdue hfits =>
    obtain ⟨hstarted, hcompleted, -, -⟩ := History.concat_lost (h := h) (s := s) he
    refine ⟨hrequests, hpending, ?_, t, ht, hcounts.congr hstarted hcompleted⟩
    rw [hstarted]
    exact hcalls
  | @drop f he hf =>
    obtain ⟨hstarted, hcompleted, -, -⟩ := History.concat_dropped (h := h) (s := s) he
    refine ⟨hrequests, hpending, ?_, t, ht, hcounts.congr hstarted hcompleted⟩
    rw [hstarted]
    exact hcalls

/-- Counters that were `t₀` at first have added up the times of the requests that completed. -/
def Waited (t₀ : Option Tally) (h : History) (e : Endpoint) (st : Station) : Prop :=
  st.tally.map (·.waitingTime.nanos) =
    t₀.map (·.waitingTime.nanos + ((h.completed e).map fun f => f.time.nanos).sum)

/-- Nothing was added up before the first step. -/
theorem waited_nil (st : Station) (e : Endpoint) : st.Waited st.tally [] e := by
  have hcompleted : History.completed [] e = [] := rfl
  simp only [Waited, hcompleted, List.map_nil, List.sum_nil, Nat.add_zero]

theorem waited_depart {t₀ : Option Tally} {f : Flight} (hwaited : st.Waited t₀ h e)
    (hcompleted : History.completed h' e = h.completed e) : (st.depart f).Waited t₀ h' e := by
  have hrequest : ∀ t : Tally, (t.add .request).waitingTime.nanos = t.waitingTime.nanos :=
    fun t => t.nanos_waitingTime_add .request
  rw [Waited] at hwaited ⊢
  rw [hcompleted, ← hwaited, depart, Option.map_map]
  exact Option.map_congr fun t _ => hrequest t

theorem waited_land {t₀ : Option Tally} {f : Flight} (hwaited : st.Waited t₀ h e) (threshold : Nat)
    (hcompleted : History.completed h' e = h.completed e ++ [f]) :
    (st.land threshold f).Waited t₀ h' e := by
  have hland : ∀ t : Tally, (t.addAll (st.measures threshold f)).waitingTime.nanos =
      t.waitingTime.nanos + f.time.nanos := fun t => by
    rw [t.nanos_waitingTime_addAll, nanos_measures]
  -- each counter grows by the time of the request
  have hadd := congrArg (Option.map (· + f.time.nanos)) hwaited
  simp only [Option.map_map, Function.comp_def] at hadd
  simp only [Waited, hcompleted, land, Option.map_map, Function.comp_def, hland, hadd,
    List.map_append, List.sum_append, List.map_singleton, List.sum_singleton, Nat.add_assoc]

theorem waited_move {t₀ : Option Tally} (hm : Move settings now e st o st')
    (hwaited : st.Waited t₀ h e) (s : Simulation) : st'.Waited t₀ (h ++ [⟨s, o⟩]) e := by
  cases hm with
  | other ho =>
    obtain ⟨-, hcompleted, -, -⟩ := History.concat_of_other (h := h) (s := s) ho
    rw [Waited, hcompleted]
    exact hwaited
  | depart he hstart hprobe =>
    obtain ⟨-, hcompleted, -, -⟩ := History.concat_departed (h := h) (s := s) he
    exact waited_depart hwaited hcompleted
  | land he hf hdue haccepts =>
    obtain ⟨-, hcompleted, -, -⟩ := History.concat_landed (h := h) (s := s) he
    exact waited_land hwaited settings.threshold hcompleted
  | lose he hf hdue hrefuses =>
    obtain ⟨-, hcompleted, -, -⟩ := History.concat_lost (h := h) (s := s) he
    rw [Waited, hcompleted]
    exact hwaited
  | drop he hf =>
    obtain ⟨-, hcompleted, -, -⟩ := History.concat_dropped (h := h) (s := s) he
    rw [Waited, hcompleted]
    exact hwaited

/-- A request is lost only when the times of the requests that ended are too much in
total to be kept. -/
theorem lost_eq_nil_move {t₀ : Option Tally} (hm : Move settings now e st o st')
    (hwaited : st.Waited t₀ h e) (hlost : h.TimeFits t₀ e → h.lost e = []) (s : Simulation)
    (hfits : History.TimeFits (h ++ [⟨s, o⟩]) t₀ e) : History.lost (h ++ [⟨s, o⟩]) e = [] := by
  cases hm with
  | other ho =>
    obtain ⟨-, hcompleted', hlost', -⟩ := History.concat_of_other (h := h) (s := s) ho
    rw [History.TimeFits, History.waitingTime, hcompleted', hlost'] at hfits
    rw [hlost', hlost hfits]
  | @depart f he hstart hprobe =>
    obtain ⟨-, hcompleted', hlost', -⟩ := History.concat_departed (h := h) (s := s) he
    rw [History.TimeFits, History.waitingTime, hcompleted', hlost'] at hfits
    rw [hlost', hlost hfits]
  | @land f he hf hdue haccepts =>
    obtain ⟨-, hcompleted', hlost', -⟩ := History.concat_landed (h := h) (s := s) he
    rw [hlost']
    refine hlost fun t ht => decide_eq_true ?_
    -- what fits with the time of this request fits without it
    have hnanos := of_decide_eq_true (hfits t ht)
    simp only [History.waitingTime, hcompleted', hlost', Duration.nanos_add, List.map_append,
      List.sum_append] at hnanos ⊢
    omega
  | @lose f he hf hdue hrefuses =>
    obtain ⟨-, hcompleted', hlost', -⟩ := History.concat_lost (h := h) (s := s) he
    obtain ⟨t', ht', hover⟩ := hrefuses
    -- the times counted so far are those of the completed requests, so this one is too much
    have hmem : t'.waitingTime.nanos ∈ st.tally.map (·.waitingTime.nanos) :=
      Option.mem_map_of_mem _ ht'
    rw [hwaited] at hmem
    obtain ⟨t, ht, heq⟩ := Option.map_eq_some_iff.mp hmem
    have hover := of_decide_eq_false hover
    rw [Duration.nanos_add, ← heq] at hover
    have hnanos := of_decide_eq_true (hfits t ht)
    simp only [History.waitingTime, hcompleted', hlost', Duration.nanos_add, List.map_append,
      List.sum_append, List.map_singleton, List.sum_singleton] at hnanos
    omega
  | @drop f he hf =>
    obtain ⟨-, hcompleted', hlost', -⟩ := History.concat_dropped (h := h) (s := s) he
    rw [History.TimeFits, History.waitingTime, hcompleted', hlost'] at hfits
    rw [hlost', hlost hfits]

end Station

/-! ### Runs -/

namespace Simulation

variable {settings : HealthSettings} {network : Network} {sink : Sink}
  {behaviours : ExtTreeMap Endpoint Behaviour} {h : History} {s : Simulation} {e : Endpoint}

/-- A request that started completed, was lost or dropped, or is in flight. -/
theorem requests_course (hc : Course (fresh settings network sink) h s) (e : Endpoint) :
    (h.started e).Perm
      (h.completed e ++ h.lost e ++ h.cancelled e ++ s.flights.filter (·.endpoint = e)) := by
  refine station_course (P := fun h st => (h.started e).Perm
    (h.completed e ++ h.lost e ++ h.cancelled e ++ st.flights))
    (orderly_fresh settings network sink) List.Perm.nil ?_ hc
  intro h s o st' _ hm hrequests
  exact Station.requests_move hm hrequests s

/-- The counters add up the times of the requests that completed, and no request is lost as
long as this is possible. -/
theorem waited_course (hc : Course (fresh settings network sink) h s) (e : Endpoint) :
    (s.station e).Waited (sink.tally? e) h e ∧ (h.TimeFits (sink.tally? e) e → h.lost e = []) := by
  refine station_course (P := fun h st =>
    st.Waited (sink.tally? e) h e ∧ (h.TimeFits (sink.tally? e) e → h.lost e = []))
    (orderly_fresh settings network sink) ⟨Station.waited_nil _ e, fun _ => rfl⟩ ?_ hc
  rintro h s o st' - hm ⟨hwaited, hlost⟩
  exact ⟨Station.waited_move hm hwaited s, Station.lost_eq_nil_move hm hwaited hlost s⟩

theorem accounts_course (hc : Course (fresh settings { behaviours } (.counting {})) h s)
    (e : Endpoint) :
    (s.station e).Accounts h e ∧ ((h.waitingTime e).fits → h.lost e = []) := by
  constructor
  · refine station_course (P := fun h st => st.Accounts h e) (orderly_fresh settings _ _) ?_ ?_ hc
    · exact ⟨List.Perm.nil, rfl, rfl, {}, rfl, Tally.counts_empty e⟩
    · intro h s o st' _ hm ha
      exact Station.accounts_move hm ha s
  · intro hfits
    refine (waited_course hc e).2 fun t ht => ?_
    -- the counters are empty at first
    obtain rfl : {} = t := Option.some.inj ht
    refine decide_eq_true ?_
    rw [Duration.nanos_add]
    exact (Nat.zero_add _).symm ▸ of_decide_eq_true hfits

/-- **Every request to `e` is accounted for.** -/
structure Accounted (h : History) (s : Simulation) (e : Endpoint) : Prop where
  /-- A request that started completed, was dropped, or is in flight. -/
  requests :
    (h.started e).Perm (h.completed e ++ h.cancelled e ++ s.flights.filter (·.endpoint = e))
  /-- The slots that are taken are those of the requests in flight. -/
  pending : s.monitor.pending e = (s.flights.filter (·.endpoint = e)).length
  /-- A slot is taken by each request that started until it completes or is dropped. -/
  released :
    s.monitor.pending e + (h.completed e).length + (h.cancelled e).length = (h.started e).length
  /-- A request in flight holds a slot that its end can release. -/
  held : ∀ f ∈ s.flights, f.endpoint = e → 0 < s.monitor.pending e
  /-- The network was called once for each request that is counted. -/
  calls : s.network.callCount e = (s.sink.counters.tally e).requests
  /-- A counter of ends counts the completed requests that ended so. -/
  ends : ∀ m ∈ Measure.ends,
    (s.sink.counters.tally e).count m = (h.completed e).countP (·.ending.measure = m)
  /-- A request that is counted is counted at its end, in flight, or dropped. -/
  total : (s.sink.counters.tally e).requests =
    (s.sink.counters.tally e).healthy + (s.sink.counters.tally e).quotaExceeded +
      (s.sink.counters.tally e).internalServerError +
      (s.sink.counters.tally e).serviceUnavailable + (s.sink.counters.tally e).otherError +
      (s.sink.counters.tally e).leaked + s.monitor.pending e + (h.cancelled e).length

theorem tally_counters_of_mem {sink : Sink} {t : Tally} (ht : t ∈ sink.tally? e) :
    sink.counters.tally e = t := by
  cases sink with
  | discarding => contradiction
  | counting c => exact Option.some.inj ht

/-- **Every request that started is in flight, was counted under one measure at its end, or
was dropped**, in whatever order requests start, end and are dropped, as long as the times
that they took can be kept. -/
theorem requests_accounted (hc : Course (fresh settings { behaviours } (.counting {})) h s)
    (hfits : (h.waitingTime e).fits) : Accounted h s e := by
  obtain ⟨⟨hrequests, hpending, hcalls, t, ht, hcounts⟩, hlost⟩ := accounts_course hc e
  rw [← s.pending_eq] at hpending
  -- no request was lost, so one that is no longer in flight completed or was dropped
  rw [hlost hfits, List.append_nil] at hrequests
  have hlength := hrequests.length_eq
  rw [List.length_append, List.length_append, ← hpending] at hlength
  have hcompleted := hcounts.length_completed
  have hstarted := hcounts.requests
  have htally : s.sink.counters.tally e = t := tally_counters_of_mem ht
  refine ⟨hrequests, hpending, ?_, ?_, ?_, ?_, ?_⟩
  · omega
  · intro f hf he
    rw [hpending]
    exact List.length_pos_of_mem (mem_flights_station.mpr ⟨hf, he⟩)
  · rw [htally, hstarted]
    exact hcalls
  · rw [htally]
    exact hcounts.ends
  · rw [htally]
    omega

/-- One of four requests was dropped, one was answered, one was abandoned, and the last is
still in flight. -/
theorem requests_accounted_of_each_kind :
    let slow : Behaviour := { status := 503, latency := .ofMillis 20 }
    let s := fresh { requestTimeoutMs := 50 } { behaviours := .ofList [("a", slow)] } (.counting {})
    let as : List Action := [.start "x" "a", .start "y" "a", .cancel "x", .advance 30,
      .change "a" (.latency (.ofMillis 80)), .start "z" "a", .start "w" "b", .advance 60,
      .start "v" "a"]
    ((s.history as).waitingTime "a").fits ∧ Accounted (s.history as) (s.run as).value "a" :=
  ⟨by decide +kernel,
    requests_accounted (course_history (orderly_fresh ..) _) (by decide +kernel)⟩

end Simulation
end PartitionRouting
