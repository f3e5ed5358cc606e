import PartitionRouting.Proofs.Simulation.Dropping

/-!
# Cancelled requests leave no trace

A request that is dropped before its end takes a slot and gives it back.  What remains is that
it was counted when it started and that its instance has a record, and nothing that happens
later depends on either.

A run with such a request is compared with the run without it in two stages.  First the drop
is moved back to the start of the request, past all that happens in between; then what is left
is one request more in the counters, which everything later leaves as it is.

## Main definitions

* `Simulation.noted` — the state in which one more request to an instance is counted.
* `Simulation.Notes` — one state is another with such a request counted, up to the order of
  the flights.
* `Simulation.OneMore` — what can be seen in two states, compared.
* `History.Over` — all requests of a name have ended.
* `Simulation.Traceless` — a request that is cancelled leaves no trace.

## Main results

* `Simulation.perform_noted`, `exists_step_of_notes` — an action or a step goes on as before
  once one more request is counted.
* `Simulation.depart_drop` — a request that is dropped at once is just counted.
* `Simulation.run_cancelled`, `exists_course_of_cancelled` — a run or a course with a request
  that is cancelled, compared with the one without it.
* `Simulation.cancelled_without_trace` — **a cancelled request leaves no trace.**
-/

namespace PartitionRouting

open Std

/-- A slot that is taken and given back leaves the record as it was, if no other probe was in
flight. -/
theorem HealthRecord.release_acquire_self {r : HealthRecord} {probe : Bool}
    (h : probe = true → r.probing = false) : (r.acquire probe).release probe = r := by
  have hprobing : ((r.probing || probe) && !probe) = r.probing := by
    cases probe
    · simp
    · simp [h rfl]
  rw [acquire, release, Nat.add_sub_cancel, hprobing]

/-! ### One more request counted -/

namespace Tally

/-- The counters after a measure, unless it is too much to be added. -/
def addFitting (t : Tally) (m : Measure) : Tally := if t.accepts m then t.add m else t

theorem accepts_add_request (t : Tally) (m : Measure) :
    (t.add .request).accepts m = t.accepts m := by
  cases m <;> rfl

theorem add_request_add (t : Tally) (m : Measure) :
    (t.add .request).add m = (t.add m).add .request := by
  rcases m with _ | d | (_ | _ | _ | _ | _) | _ | _ | (_ | _) <;> rfl

theorem add_request_addFitting (t : Tally) (m : Measure) :
    (t.add .request).addFitting m = (t.addFitting m).add .request := by
  rw [addFitting, addFitting, accepts_add_request, add_request_add]
  split <;> rfl

end Tally

namespace Counters

theorem tally_add (c : Counters) (e a : Endpoint) (m : Measure) :
    (c.add (.measure e m)).tally a = if a = e then (c.tally e).addFitting m else c.tally a := by
  rw [tally_add_measure, Tally.addFitting]
  by_cases ha : a = e
  · subst ha
    simp
  · simp [ha]

theorem accepts_add_request (c : Counters) (e : Endpoint) (r : Recording) :
    (c.add (.measure e .request)).accepts r = c.accepts r := by
  cases r with
  | noReplica => rfl
  | measure a m =>
    rw [accepts, accepts, tally_add_measure]
    split
    · next h => rw [h.1, Tally.accepts_add_request]
    · rfl

/-- A request may be counted before or after anything else. -/
theorem add_request_add (c : Counters) (e : Endpoint) (r : Recording) :
    (c.add (.measure e .request)).add r = (c.add r).add (.measure e .request) := by
  cases r with
  | noReplica => rfl
  | measure a m =>
    -- a request is counted in any case, so it does not matter which is first
    have htallies : ((c.tallies.insert e ((c.tally e).add .request)).insert a
          (((c.add (.measure e .request)).tally a).addFitting m)) =
        (c.tallies.insert a ((c.tally a).addFitting m)).insert e
          (((c.add (.measure a m)).tally e).add .request) := by
      refine insert_insert_comm (fun ha => ?_) (fun ha => ⟨?_, ?_⟩)
      · subst ha
        rw [tally_add, tally_add, if_pos rfl, if_pos rfl]
        exact Tally.add_request_addFitting (c.tally a) m
      · rw [tally_add, if_neg (Ne.symm ha)]
      · rw [tally_add, if_neg ha]
    have hdamaged : (c.damaged || false || !(c.add (.measure e .request)).accepts (.measure a m)) =
        (c.damaged || !c.accepts (.measure a m) || false) := by
      rw [accepts_add_request, Bool.or_false, Bool.or_false]
    show Counters.mk _ _ _ = Counters.mk _ _ _
    rw [Counters.mk.injEq]
    exact ⟨htallies, rfl, hdamaged⟩

end Counters

namespace Sink

theorem accepts_record_request (s : Sink) (e : Endpoint) (r : Recording) :
    (s.record (.measure e .request)).value.accepts r = s.accepts r := by
  cases s with
  | discarding => rfl
  | counting c => exact c.accepts_add_request e r

theorem record_request_record (s : Sink) (e : Endpoint) (r : Recording) :
    ((s.record (.measure e .request)).value.record r).value =
      ((s.record r).value.record (.measure e .request)).value := by
  cases s with
  | discarding => rfl
  | counting c => exact congrArg counting (c.add_request_add e r)

/-- A request may be counted before or after a series of recordings. -/
theorem record_request_recordAll (s : Sink) (e : Endpoint) (rs : List Recording) :
    ((s.record (.measure e .request)).value.recordAll rs).value =
      ((s.recordAll rs).value.record (.measure e .request)).value := by
  induction rs generalizing s with
  | nil => rfl
  | cons r rest ih =>
    calc ((s.record (.measure e .request)).value.recordAll (r :: rest)).value
      _ = (((s.record (.measure e .request)).value.record r).value.recordAll rest).value := rfl
      _ = (((s.record r).value.record (.measure e .request)).value.recordAll rest).value := by
        rw [record_request_record]
      _ = ((s.recordAll (r :: rest)).value.record (.measure e .request)).value := ih _

end Sink

theorem Network.call_call (n : Network) (e a : Endpoint) :
    (n.call e).call a = (n.call a).call e := by
  have hcalls : (n.calls.insert e (n.callCount e + 1)).insert a ((n.call e).callCount a + 1) =
      (n.calls.insert a (n.callCount a + 1)).insert e ((n.call a).callCount e + 1) := by
    refine insert_insert_comm (fun ha => ?_) (fun ha => ⟨?_, ?_⟩)
    · rw [ha]
    · rw [callCount_call, if_neg (Ne.symm ha)]
    · rw [callCount_call, if_neg ha]
  exact congrArg (Network.mk n.behaviours) hcalls

namespace Monitor

/-- A record that is looked up is not changed by it. -/
theorem record_update_id (m : Monitor) (e a : Endpoint) :
    (m.update e id).record a = m.record a := by
  rw [record_update]
  split
  · next ha => rw [ha, id]
  · rfl

theorem admitsProbe_update_id (m : Monitor) (e a : Endpoint) (now : Nat) :
    (m.update e id).admitsProbe now a = m.admitsProbe now a := by
  rw [admitsProbe, record_update_id]
  rfl

theorem moved_update_id (m : Monitor) (e a : Endpoint) (now : Nat) (v : Verdict) :
    ((m.update e id).judge now a v).value.1 = (m.judge now a v).value.1 := by
  rw [moved_eq, moved_eq, record_update_id]
  rfl

theorem update_id_update (m : Monitor) (e a : Endpoint) (f : HealthRecord → HealthRecord) :
    (m.update e id).update a f = (m.update a f).update e id :=
  update_update_comm fun _ => rfl

theorem judge_update_id (m : Monitor) (e a : Endpoint) (now : Nat) (v : Verdict) :
    ((m.update e id).judge now a v).value.2 = (m.judge now a v).value.2.update e id := by
  rw [judged_eq, judged_eq]
  exact m.update_id_update e a _

/-- The record after two changes. -/
theorem update_update (m : Monitor) (e : Endpoint) (f g : HealthRecord → HealthRecord) :
    (m.update e f).update e g = m.update e fun r => g (f r) := by
  have hrecords : (m.records.insert e (f (m.record e))).insert e (g ((m.update e f).record e)) =
      m.records.insert e (g (f (m.record e))) := by
    refine ExtTreeMap.ext_getElem? fun b => ?_
    rw [record_update, if_pos rfl]
    simp only [ExtTreeMap.getElem?_insert, Std.compare_eq_iff_eq]
    split <;> rfl
  exact congrArg (Monitor.mk m.settings) hrecords

/-- A request that starts and is dropped at once leaves the record as it was. -/
theorem release_launch_self (m : Monitor) (now : Nat) (e : Endpoint) :
    (m.launch now e).value.2.release e (m.admitsProbe now e) = m.update e id := by
  have hrecord : ((m.record e).acquire (m.admitsProbe now e)).release (m.admitsProbe now e) =
      m.record e :=
    HealthRecord.release_acquire_self fun h => (HealthRecord.admitsProbe_iff.mp h).2.1
  rw [launched_eq, release, update_update]
  exact congrArg (fun r => Monitor.mk m.settings (m.records.insert e r)) hrecord

end Monitor

namespace Simulation

variable {settings : HealthSettings} {network : Network} {sink : Sink} {h h' : History}
  {s s' t : Simulation} {o : Occurrence} {e a : Endpoint} {label : String} {r f : Flight}

/-- The state in which one more request to `e` is counted, and `e` has a record. -/
def noted (s : Simulation) (e : Endpoint) : Simulation :=
  { s with
    monitor := s.monitor.update e id
    network := s.network.call e
    sink := (s.sink.record (.measure e .request)).value }

/-! ### What goes on as before -/

theorem newFlight_noted (s : Simulation) (e a : Endpoint) (name : Option String) :
    (s.noted e).newFlight name a = s.newFlight name a := by
  have hadmits : (s.noted e).monitor.admitsProbe (s.noted e).clock a =
      s.monitor.admitsProbe s.clock a := s.monitor.admitsProbe_update_id e a s.clock
  refine newFlight_congr ?_ ?_ ?_ hadmits name
  all_goals rfl

theorem depart_noted (s : Simulation) (e a : Endpoint) (name : Option String) :
    ((s.noted e).depart name a).value = (s.depart name a).value.noted e := by
  have hmonitor : ((s.monitor.update e id).launch s.clock a).value.2 =
      (s.monitor.launch s.clock a).value.2.update e id := by
    rw [Monitor.launched_eq, Monitor.launched_eq, Monitor.admitsProbe_update_id,
      Monitor.update_id_update]
  have hnetwork := s.network.call_call e a
  have hsink := s.sink.record_request_record e (.measure a .request)
  have hflights := congrArg (schedule · s.flights) (newFlight_noted s e a name)
  exact mk_congr rfl hmonitor hnetwork hsink hflights rfl

theorem countable_noted (s : Simulation) (e : Endpoint) (f : Flight) :
    (s.noted e).countable f = s.countable f := s.sink.accepts_record_request e _

theorem measuresOf_noted (s : Simulation) (e : Endpoint) (f : Flight) (x : Ending) :
    (s.noted e).measuresOf f x = s.measuresOf f x := by
  rw [measuresOf, measuresOf, movedBy, movedBy, noted, Monitor.moved_update_id]

theorem land_noted (s : Simulation) (e : Endpoint) (f : Flight) (x : Ending) :
    ((s.noted e).land f x).value = (s.land f x).value.noted e := by
  have hcountable := countable_noted s e f
  cases h : s.countable f with
  | true =>
    -- the record is there already, and the extra request is counted first or last
    have hmonitor :
        ((s.monitor.update e id).judge s.clock f.endpoint x.verdict).value.2.release
          f.endpoint f.probe =
        ((s.monitor.judge s.clock f.endpoint x.verdict).value.2.release
          f.endpoint f.probe).update e id := by
      rw [Monitor.judge_update_id]
      exact Monitor.update_id_update ..
    have hsink := s.sink.record_request_recordAll e
      ((s.measuresOf f x).map (.measure f.endpoint))
    rw [value_land h, value_land (hcountable.trans h), measuresOf_noted]
    exact mk_congr rfl hmonitor rfl hsink rfl rfl
  | false =>
    have hmonitor := s.monitor.update_id_update e f.endpoint (·.release f.probe)
    have hsink := s.sink.record_request_record e
      (.measure f.endpoint (.waited (f.elapsed s.clock)))
    rw [value_land_of_lost h, value_land_of_lost (hcountable.trans h)]
    exact mk_congr rfl hmonitor rfl hsink rfl rfl

theorem drop_noted (s : Simulation) (e : Endpoint) (f : Flight) :
    (s.noted e).drop f = (s.drop f).noted e := by
  rw [drop, drop, noted, noted, Monitor.release, Monitor.release, Monitor.update_id_update]

theorem landUntil_noted (u : Nat) (fs : List Flight) (s : Simulation) (e : Endpoint) :
    (landUntil u fs (s.noted e)).value = (landUntil u fs s).value.noted e := by
  induction fs generalizing s with
  | nil => rfl
  | cons f rest ih =>
    unfold landUntil
    split
    · have hland : (land { (s.noted e).later f.endsAt with flights := rest } f f.ending).value =
          (land { s.later f.endsAt with flights := rest } f f.ending).value.noted e :=
        land_noted { s.later f.endsAt with flights := rest } e f f.ending
      rw [Logged.value_bind, Logged.value_bind, hland]
      exact ih _
    · rfl

theorem advanceTo_noted (s : Simulation) (e : Endpoint) (u : Nat) :
    ((s.noted e).advanceTo u).value = (s.advanceTo u).value.noted e :=
  landUntil_noted u s.flights s e

/-- **An action goes on as before** once one more request is counted. -/
theorem perform_noted (s : Simulation) (e : Endpoint) (a : Action) :
    ((s.noted e).perform a).value = (s.perform a).value.noted e := by
  cases a with
  | start name a =>
    rw [perform, perform, start, start, Logged.value_bind, Logged.value_bind, depart_noted]
    exact advanceTo_noted _ e _
  | send a =>
    rw [perform, perform, send, send, Logged.value_bind, Logged.value_bind, depart_noted,
      newFlight_noted]
    exact advanceTo_noted _ e _
  | join name =>
    have hsame : (s.noted e).inFlight? name = s.inFlight? name := rfl
    rw [perform, perform, join, join, hsame]
    cases s.inFlight? name with
    | none => rfl
    | some f => exact advanceTo_noted s e f.endsAt
  | cancel name =>
    have hsame : (s.noted e).inFlight? name = s.inFlight? name := rfl
    rw [perform, perform, cancel, cancel, hsame]
    cases s.inFlight? name with
    | none => rfl
    | some f => exact drop_noted s e f
  | advance ms => exact advanceTo_noted s e _
  | change a c => rfl

theorem run_noted (s : Simulation) (e : Endpoint) (as : List Action) :
    ((s.noted e).run as).value = (s.run as).value.noted e := by
  induction as generalizing s with
  | nil => rfl
  | cons a rest ih =>
    calc ((s.noted e).run (a :: rest)).value
      _ = (((s.perform a).value.noted e).run rest).value := by rw [← perform_noted]; rfl
      _ = (s.run (a :: rest)).value.noted e := ih _

/-! ### A request that is dropped at once -/

/-- The state with other flights. -/
def withFlights (s : Simulation) (fs : List Flight) : Simulation := { s with flights := fs }

/-- **A request that is dropped at once is just counted.** -/
theorem depart_drop (s : Simulation) (name : Option String) (e : Endpoint) :
    (s.depart name e).value.drop (s.newFlight name e) =
      (s.noted e).withFlights
        ((schedule (s.newFlight name e) s.flights).erase (s.newFlight name e)) := by
  have hmonitor := s.monitor.release_launch_self s.clock e
  exact mk_congr rfl hmonitor rfl rfl rfl rfl

theorem perm_erase_schedule (r : Flight) (l : List Flight) : ((schedule r l).erase r).Perm l := by
  have hperm := (perm_schedule r l).erase r
  rwa [List.erase_cons_head] at hperm

theorem erase_schedule_self {r : Flight} {l : List Flight} (hr : r ∉ l) :
    (schedule r l).erase r = l := by
  induction l with
  | nil => exact List.erase_cons_head ..
  | cons g rest ih =>
    obtain ⟨hg, hrest⟩ := List.ne_and_not_mem_of_not_mem_cons hr
    rw [schedule]
    split
    · rw [List.erase_cons_tail (by simpa using Ne.symm hg), ih hrest]
    · exact List.erase_cons_head ..

/-! ### Runs -/

theorem value_run_append (s : Simulation) (as bs : List Action) :
    (s.run (as ++ bs)).value = ((s.run as).value.run bs).value := by
  rw [run, List.foldlM_append]
  rfl

/-- A request that is in flight under a name after a list of actions that do not mention the name
was in flight before. -/
theorem inFlight?_of_run {as : List Action} (has : ∀ a ∈ as, a.label? ≠ some label)
    (hr : (s.run as).value.inFlight? label = some r) : r.label = some label ∧ r ∈ s.flights := by
  have hlabel : r.label = some label := by simpa using List.find?_some hr
  exact ⟨hlabel, mem_flights_of_run hlabel has (inFlight?_mem hr)⟩

/-- A request that is in flight after it started under a free name is the one that started. -/
theorem eq_newFlight_of_mem (hname : s.inFlight? label = none) (hlabel : r.label = some label)
    (hr : r ∈ (s.perform (.start label e)).value.flights) :
    r = s.newFlight (some label) e ∧ r ∉ s.flights := by
  have hnot : r ∉ s.flights := fun hr => by
    have hno := List.find?_eq_none.mp hname r hr
    simp [hlabel] at hno
  have hdepart : r ∈ (s.depart (some label) e).value.flights := mem_flights_of_advanceTo hr
  rcases List.mem_cons.mp ((perm_schedule _ _).mem_iff.mp hdepart) with hr | hr
  · exact ⟨hr, hnot⟩
  · exact absurd hr hnot

/-- **A run with a request that is cancelled** ends in the same state as the run without it, with
one more request counted. -/
theorem run_cancelled (hc : Course (fresh settings network sink) h s) (hs : s.Settled)
    (hname : s.inFlight? label = none) {as : List Action} (has : ∀ a ∈ as, a.label? ≠ some label)
    (hr : (s.run (.start label e :: as)).value.inFlight? label = some r)
    (hprobe : r.probe = true → ∀ a ∈ as, a.recipient? ≠ some e) :
    (s.run (.start label e :: as ++ [.cancel label])).value = (s.run as).value.noted e := by
  have horderly : s.Orderly := orderly_course hc (orderly_fresh ..)
  obtain ⟨hlabel, hstarted⟩ := inFlight?_of_run (s := (s.perform (.start label e)).value) has hr
  obtain ⟨rfl, hnew⟩ := eq_newFlight_of_mem hname hlabel hstarted
  -- dropped at once, the request is just counted
  have hatonce : (s.perform (.start label e)).value.drop (s.newFlight (some label) e) =
      s.noted e := by
    have hadvance := drop_advanceTo (orderly_depart horderly (some label) e) hstarted
    have hdepart := depart_drop s (some label) e
    rw [erase_schedule_self hnew] at hdepart
    rw [perform, start, Logged.value_bind, hadvance, hdepart]
    refine (advanceTo_noted s e s.clock).trans ?_
    rw [value_advanceTo_clock hs]
  have hcourse := hc.trans (course_historyOf horderly (.start label e))
  have hlater := drop_run hcourse hlabel has hprobe (inFlight?_mem hr)
  calc (s.run (.start label e :: as ++ [.cancel label])).value
    _ = (s.run (.start label e :: as)).value.cancel label := by rw [value_run_append]; rfl
    _ = (s.run (.start label e :: as)).value.drop (s.newFlight (some label) e) := by
      rw [cancel, hr]
    _ = (((s.perform (.start label e)).value.drop (s.newFlight (some label) e)).run as).value :=
      hlater
    _ = (s.run as).value.noted e := by rw [hatonce, run_noted]

/-! ### Courses -/

theorem land_withFlights (s : Simulation) (fs : List Flight) (f : Flight) (x : Ending) :
    ((s.withFlights fs).land f x).value = (s.land f x).value.withFlights fs := by
  cases h : s.countable f with
  | true =>
    have h' : (s.withFlights fs).countable f = true := h
    -- rewritten first, so that the counters need not be compared by evaluation
    have hsink : (s.withFlights fs).sink = s.sink := rfl
    have hmeasures : (s.withFlights fs).measuresOf f x = s.measuresOf f x := rfl
    rw [value_land h, value_land h', hsink, hmeasures]
    rfl
  | false =>
    have h' : (s.withFlights fs).countable f = false := h
    rw [value_land_of_lost h, value_land_of_lost h']
    rfl

/-- `s` is `t` with one more request to `e` counted, and the flights in whatever order.  The order
matters where two requests are alike in all respects: the one that is dropped is then the first
of them, which need not be the one that has just started. -/
def Notes (e : Endpoint) (s t : Simulation) : Prop :=
  ∃ fs : List Flight, fs.Perm t.flights ∧ s = (t.noted e).withFlights fs

theorem notes_noted (t : Simulation) (e : Endpoint) : Notes e (t.noted e) t :=
  ⟨t.flights, List.Perm.refl _, rfl⟩

/-- An end goes on as before once one more request is counted. -/
theorem notes_land {fs : List Flight} (hfs : fs.Perm t.flights) (e : Endpoint) (f : Flight)
    (x : Ending) :
    Notes e ((((t.noted e).withFlights fs).without f).land f x).value
      ((t.without f).land f x).value := by
  refine ⟨fs.erase f, ?_, ?_⟩
  · rw [flights_land]
    exact hfs.erase f
  · rw [← land_noted, ← land_withFlights]
    rfl

/-- **A step goes on as before** once one more request is counted. -/
theorem exists_step_of_notes (hn : Notes e s t) (hs : Step s o s') :
    ∃ t', Step t o t' ∧ Notes e s' t' := by
  obtain ⟨fs, hfs, rfl⟩ := hn
  -- the flights differ in their order alone, so the same steps are possible
  cases hs with
  | depart name a =>
    have hflight : ((t.noted e).withFlights fs).newFlight name a = t.newFlight name a :=
      newFlight_noted t e a name
    rw [hflight]
    refine ⟨_, Step.depart t name a, schedule (t.newFlight name a) fs, ?_, ?_⟩
    · exact (perm_schedule _ fs).trans ((hfs.cons _).trans (perm_schedule _ t.flights).symm)
    · rw [← depart_noted, ← newFlight_noted t e]
      rfl
  | @land f x hf hpoll h =>
    have hcountable := countable_noted t e f
    exact ⟨_, Step.land (hfs.mem_iff.mp hf) hpoll (hcountable.symm.trans h), notes_land hfs e f x⟩
  | @lose f x hf hpoll h =>
    have hcountable := countable_noted t e f
    exact ⟨_, Step.lose (hfs.mem_iff.mp hf) hpoll (hcountable.symm.trans h), notes_land hfs e f x⟩
  | @drop f hf =>
    refine ⟨_, Step.drop (hfs.mem_iff.mp hf), fs.erase f, hfs.erase f, ?_⟩
    rw [← drop_noted]
    rfl
  | wait hclock hsleep =>
    exact ⟨_, Step.wait hclock fun hlt g hg => hsleep hlt g (hfs.mem_iff.mpr hg), fs, hfs, rfl⟩
  | change a c => exact ⟨_, Step.change t a c, fs, hfs, rfl⟩

theorem exists_course_of_notes (hn : Notes e s t) (hc : Course s h s') :
    ∃ h' t', Course t h' t' ∧ h'.occurrences = h.occurrences ∧ Notes e s' t' := by
  induction hc with
  | start => exact ⟨[], t, Course.start, rfl, hn⟩
  | @step h u u' o _ hs ih =>
    obtain ⟨h', t', hcourse, hsame, hn'⟩ := ih
    obtain ⟨t'', hstep, hn''⟩ := exists_step_of_notes hn' hs
    refine ⟨h' ++ [⟨t', o⟩], t'', hcourse.step hstep, ?_, hn''⟩
    rw [History.occurrences_append, History.occurrences_append, hsame]
    rfl

/-- A request that starts and is dropped at once is just counted. -/
theorem notes_depart_drop (hs : Step s (.departed r) s') : Notes r.endpoint (s'.drop r) s := by
  cases hs with
  | depart name e => exact ⟨_, perm_erase_schedule _ _, depart_drop s name e⟩

/-- **A course with a request that is cancelled** is one without it, with one more request
counted. -/
theorem exists_course_of_cancelled {h₁ h₂ h₃ : History} {a b : Simulation}
    (hc : Course (fresh settings network sink)
      (h₁ ++ ⟨a, .departed r⟩ :: (h₂ ++ ⟨b, .dropped r⟩ :: h₃)) s)
    (hr : ∀ m ∈ h₂, r ∈ m.before.flights)
    (hprobe : r.probe = true → ∀ m ∈ h₂, ∀ f, m.what.started? = some f → f.endpoint ≠ r.endpoint) :
    ∃ h t, Course (fresh settings network sink) h t ∧
      h.occurrences = (h₁ ++ h₂ ++ h₃).occurrences ∧ Notes r.endpoint s t := by
  obtain ⟨a', hbefore, hrest⟩ := hc.exists_of_append
  obtain ⟨rfl, a₁, hdepart, hrest⟩ := hrest.exists_of_cons
  obtain ⟨b', hduring, hrest⟩ := hrest.exists_of_append
  obtain ⟨rfl, b₁, hdrop, hafter⟩ := hrest.exists_of_cons
  -- the request is in flight until it is dropped
  obtain ⟨hflying, rfl⟩ : r ∈ b.flights ∧ b₁ = b.drop r := by
    cases hdrop with
    | drop hf => exact ⟨hf, rfl⟩
  -- dropping it is moved forward to its start, where the two cancel out
  obtain ⟨h₂', hduring', hsame⟩ := drop_course (hbefore.step hdepart) hduring hr hflying hprobe
  obtain ⟨h', t, hcourse, hsame', hn⟩ :=
    exists_course_of_notes (notes_depart_drop hdepart) (hduring'.trans hafter)
  refine ⟨h₁ ++ h', t, hbefore.trans hcourse, ?_, hn⟩
  simp only [History.occurrences_append, hsame', hsame, List.append_assoc]

/-! ### What can be seen -/

/-- **What can be seen in `s` is what can be seen in `t`**, apart from one more request to `e` that
is counted. -/
structure OneMore (e : Endpoint) (s t : Simulation) : Prop where
  /-- The time is the same. -/
  clock : s.clock = t.clock
  /-- The same requests are in flight. -/
  flights : s.flights.Perm t.flights
  /-- The same requests have ended, in the same order and in the same ways. -/
  landed : s.landed = t.landed
  /-- The senders of named requests were given the same. -/
  result? : ∀ label, s.result? label = t.result? label
  /-- The same slots are taken. -/
  pending : ∀ a, s.monitor.pending a = t.monitor.pending a
  /-- The same instances are available. -/
  isAvailable : ∀ a, s.isAvailable a = t.isAvailable a
  /-- The failures, the last failure, the mark of a probe and the judgement are the same. -/
  record : ∀ a, s.monitor.record a = t.monitor.record a
  /-- The instance is judged healthy if it had no record, and all other judgements are shown as
  they were. -/
  state? : ∀ a, s.monitor.state? a =
    if a = e then some ((t.monitor.state? a).getD .healthy) else t.monitor.state? a
  /-- The counters are the same, apart from the requests to the instance. -/
  tally? : ∀ a, s.sink.tally? a =
    if a = e then (t.sink.tally? a).map fun c => { c with requests := c.requests + 1 }
    else t.sink.tally? a
  /-- The network was called once more for the instance. -/
  callCount : ∀ a, s.network.callCount a =
    if a = e then t.network.callCount a + 1 else t.network.callCount a

theorem state?_noted (t : Simulation) (e a : Endpoint) :
    (t.noted e).monitor.state? a =
      if a = e then some ((t.monitor.state? a).getD .healthy) else t.monitor.state? a := by
  rw [Monitor.state?, Monitor.state?]
  show ((t.monitor.update e id).records[a]?).map (·.state) = _
  rw [Monitor.getElem?_records_update]
  split
  · next ha =>
    rw [ha, Monitor.record]
    cases t.monitor.records[e]? <;> rfl
  · rfl

theorem Notes.oneMore (hn : Notes e s t) : OneMore e s t := by
  obtain ⟨fs, hfs, rfl⟩ := hn
  have hrecord : ∀ a, (t.monitor.update e id).record a = t.monitor.record a :=
    t.monitor.record_update_id e
  refine ⟨rfl, hfs, rfl, fun _ => rfl, fun a => ?_, fun a => ?_, hrecord, state?_noted t e,
    tally?_request t.sink e, fun a => ?_⟩
  · rw [Monitor.pending_eq, Monitor.pending_eq]
    exact congrArg HealthRecord.pending (hrecord a)
  · rw [Simulation.isAvailable, Simulation.isAvailable, Monitor.isAvailable_eq,
      Monitor.isAvailable_eq]
    exact congrArg (HealthRecord.isAvailable · _ _) (hrecord a)
  · refine (t.network.callCount_call e a).trans ?_
    split
    · next ha => rw [ha]
    · rfl

/-! ### Requests that are not in flight -/

/-- No more requests of the given name have started than have ended, in whatever way. -/
def History.Over (h : History) (label : String) : Prop :=
  ∀ e, (h.started e).countP (·.label = some label) ≤
    (h.completed e ++ h.lost e ++ h.cancelled e).countP (·.label = some label)

theorem inFlight?_of_over (hc : Course (fresh settings network sink) h s) (hover : h.Over label) :
    s.inFlight? label = none := by
  refine List.find?_eq_none.mpr fun f hf hlabel => ?_
  have hcount := (requests_course hc f.endpoint).countP_eq (·.label = some label)
  have hflying : 0 < (s.flights.filter (·.endpoint = f.endpoint)).countP (·.label = some label) :=
    List.countP_pos_iff.mpr ⟨f, List.mem_filter.mpr ⟨hf, decide_eq_true rfl⟩, hlabel⟩
  have hended := hover f.endpoint
  rw [List.countP_append] at hcount
  omega

/-! ### Main result -/

/-- **A request that is cancelled leaves no trace** in what happens from state `s₀` on. -/
structure Traceless (s₀ : Simulation) : Prop where
  /-- A course in which a request is dropped can be taken without it, everything else happening as
  before, and shows the same in the end.  If the request is a probe, no other one may start in its
  place. -/
  course : ∀ (h₁ h₂ h₃ : History) (a b s : Simulation) (r : Flight),
    Course s₀ (h₁ ++ ⟨a, .departed r⟩ :: (h₂ ++ ⟨b, .dropped r⟩ :: h₃)) s →
    (∀ m ∈ h₂, r ∈ m.before.flights) →
    (r.probe = true → ∀ m ∈ h₂, ∀ f, m.what.started? = some f → f.endpoint ≠ r.endpoint) →
    (∃ h t, Course s₀ h t ∧ h.occurrences = (h₁ ++ h₂ ++ h₃).occurrences) ∧
      ∀ h t, Course s₀ h t → h.occurrences = (h₁ ++ h₂ ++ h₃).occurrences →
        OneMore r.endpoint s t
  /-- A list of actions in which a named request is started and cancelled shows the same as the
  list without these two actions. -/
  run : ∀ (as bs cs : List Action) (label : String) (e : Endpoint) (r : Flight),
    (s₀.run as).value.inFlight? label = none →
    (∀ b ∈ bs, b.label? ≠ some label) →
    (s₀.run (as ++ .start label e :: bs)).value.inFlight? label = some r →
    (r.probe = true → ∀ b ∈ bs, b.recipient? ≠ some e) →
    OneMore e (s₀.run (as ++ .start label e :: bs ++ .cancel label :: cs)).value
      (s₀.run (as ++ bs ++ cs)).value
  /-- Nothing happens when a name is cancelled under which no request was started, or only requests
  that have ended. -/
  ended : ∀ (h : History) (s : Simulation) (label : String), Course s₀ h s → h.Over label →
    s.perform (.cancel label) = pure s

/-- **A cancelled request leaves no trace**, apart from being counted as one more request and one
more call, and from its instance having a record. -/
theorem cancelled_without_trace (settings : HealthSettings) (network : Network) (sink : Sink) :
    Traceless (fresh settings network sink) where
  course h₁ h₂ h₃ a b s r hc hr hprobe := by
    obtain ⟨h, t, hcourse, hsame, hn⟩ := exists_course_of_cancelled hc hr hprobe
    refine ⟨⟨h, t, hcourse, hsame⟩, fun h' t' hcourse' hsame' => ?_⟩
    -- what happens determines the state
    have ht : t' = t := by rw [hcourse'.eq_foldl, hcourse.eq_foldl, hsame', hsame]
    rw [ht]
    exact hn.oneMore
  run as bs cs label e r hname hbs hr hprobe := by
    have horderly := orderly_fresh settings network sink
    have hcourse := course_history horderly as
    have hsettled := settled_run horderly nofun as
    rw [value_run_append] at hr
    have hcancelled := run_cancelled hcourse hsettled hname hbs hr hprobe
    have hactions : as ++ .start label e :: bs ++ .cancel label :: cs =
        as ++ (.start label e :: bs ++ [.cancel label] ++ cs) := by simp
    have hrun : ((fresh settings network sink).run
          (as ++ .start label e :: bs ++ .cancel label :: cs)).value =
        ((fresh settings network sink).run (as ++ bs ++ cs)).value.noted e := by
      rw [hactions, value_run_append, value_run_append, hcancelled, run_noted, value_run_append,
        value_run_append]
    rw [hrun]
    exact (notes_noted _ e).oneMore
  ended h s label hc hover := by
    rw [perform, cancel, inFlight?_of_over hc hover]

/-- A probe is cancelled while an older request is in flight and after others were sent to another
instance.  The window is open again at once, and the failure of the older request closes it as if
the probe had not been sent. -/
theorem cancelled_without_trace_of_probe :
    let slow : Behaviour := { status := 503, latency := .ofMillis 30 }
    let s₀ := fresh
      { unhealthyAfterFailures := 1, retryUnhealthyAfterMs := 10, requestTimeoutMs := 50 }
      { behaviours := .ofList [("a", slow)] } (.counting {})
    let as : List Action := [.start "late" "a", .change "a" (.latency .zero), .send "a",
      .advance 10, .change "a" (.latency (.ofMillis 20))]
    let bs : List Action := [.advance 5, .send "b"]
    let cs : List Action := [.advance 15]
    let r : Flight :=
      { label := "probe", endpoint := "a", startedAt := 10
        behaviour := { status := 503, latency := .ofMillis 20 }, timeout := 50, probe := true }
    let s := (s₀.run (as ++ .start "probe" "a" :: bs)).value
    let s' := (s₀.run (as ++ .start "probe" "a" :: bs ++ .cancel "probe" :: cs)).value
    s.inFlight? "probe" = some r ∧ s.isAvailable "a" = false ∧
      (s.cancel "probe").isAvailable "a" ∧ s'.isAvailable "a" = false ∧
      (s'.monitor.record "a").lastFailure = some 30 ∧
      (s'.sink.counters.tally "a").requests = 3 ∧
      OneMore "a" s' (s₀.run (as ++ bs ++ cs)).value := by
  intro slow s₀ as bs cs r s s'
  refine ⟨?_, ?_, ?_, ?_, ?_, ?_,
    (cancelled_without_trace _ _ _).run as bs cs "probe" "a" r ?_ ?_ ?_ ?_⟩
  all_goals decide +kernel

/-- A request that is sent while the probe is in flight could have been the probe itself. -/
example :
    let slow : Behaviour := { status := 503, latency := .ofMillis 20 }
    let s₀ := fresh { unhealthyAfterFailures := 1, retryUnhealthyAfterMs := 10 }
      { behaviours := .ofList [("a", slow)] } .discarding
    let s := (s₀.run [.send "a", .advance 10]).value
    (s.run [.start "probe" "a", .start "other" "a", .cancel "probe"]).value.isAvailable "a" ∧
      (s.run [.start "other" "a"]).value.isAvailable "a" = false := by
  decide +kernel

end Simulation
end PartitionRouting
