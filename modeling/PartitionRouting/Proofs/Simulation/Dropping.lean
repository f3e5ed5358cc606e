import PartitionRouting.Proofs.Simulation.Quiescence

/-!
# When a request is dropped

Dropping a request gives back its slot and, if it was the probe of its instance, the mark of
the probe.  Nothing else depends on either, apart from whether a later request is admitted as
a probe.  So a request that is dropped at last could have been dropped earlier, with the same
state in the end.

## Main definitions

* `Simulation.Action.label?`, `recipient?` — the name that an action mentions and the
  instance that it sends a request to.

## Main results

* `Monitor.release_launch`, `release_judge` — a slot may be given back before or after
  another request starts or is judged.
* `Simulation.drop_depart`, `drop_land` — a request may be dropped before or after another
  one starts or ends.
* `Simulation.drop_run`, `drop_course` — **a request may be dropped before or after a whole
  list of actions, or a whole course.**
-/

namespace PartitionRouting

open Std

/-! ### Records -/

namespace HealthRecord

variable {r : HealthRecord}

theorem release_false (r : HealthRecord) :
    r.release false = { r with pending := r.pending - 1 } := by
  simp [release]

/-- A slot may be given back before another one is taken, if there is one to give back. -/
theorem release_acquire (hr : 0 < r.pending) (probe : Bool) :
    (r.acquire probe).release false = (r.release false).acquire probe := by
  have hpending : r.pending + 1 - 1 = r.pending - 1 + 1 := by omega
  rw [release_false, release_false, acquire, acquire, hpending]

theorem release_judge (r : HealthRecord) (probe : Bool) (threshold now : Nat) (v : Verdict) :
    (r.judge threshold now v).release probe = (r.release probe).judge threshold now v := by
  cases v <;> rfl

theorem release_release (r : HealthRecord) (probe probe' : Bool) :
    (r.release probe).release probe' = (r.release probe').release probe := by
  rw [release, release, release, release, Bool.and_right_comm]

/-- A slot that was taken by no probe does not matter for the next probe. -/
theorem admitsProbe_release (r : HealthRecord) (retryAfter now : Nat) :
    (r.release false).admitsProbe retryAfter now = r.admitsProbe retryAfter now := by
  rw [release_false]
  rfl

end HealthRecord

/-- Two writes to a table may change places if they are to different instances, or if it is the
same that is written last. -/
theorem insert_insert_comm {β : Type} {m : ExtTreeMap Endpoint β} {e a : Endpoint} {x x' y y' : β}
    (hsame : a = e → y = x') (hother : a ≠ e → x = x' ∧ y = y') :
    (m.insert e x).insert a y = (m.insert a y').insert e x' := by
  refine ExtTreeMap.ext_getElem? fun b => ?_
  simp only [ExtTreeMap.getElem?_insert, Std.compare_eq_iff_eq]
  by_cases hae : a = e
  · rw [hsame hae, hae]
    split <;> rfl
  -- each of the two instances is written to once
  · obtain ⟨rfl, rfl⟩ := hother hae
    by_cases hab : a = b
    · subst hab
      rw [if_pos rfl, if_neg (Ne.symm hae), if_pos rfl]
    · rw [if_neg hab, if_neg hab]

namespace Monitor

variable {m : Monitor} {e a : Endpoint} {probe : Bool}

/-- Changes of records commute if they do so on the record of each instance that both concern. -/
theorem update_update_comm {f g : HealthRecord → HealthRecord}
    (h : a = e → g (f (m.record e)) = f (g (m.record e))) :
    (m.update e f).update a g = (m.update a g).update e f := by
  have hrecords : (m.records.insert e (f (m.record e))).insert a (g ((m.update e f).record a)) =
      (m.records.insert a (g (m.record a))).insert e (f ((m.update a g).record e)) := by
    refine insert_insert_comm (fun hae => ?_) (fun hae => ⟨?_, ?_⟩)
    · subst hae
      rw [record_update, record_update, if_pos rfl, if_pos rfl, h rfl]
    · rw [record_update, if_neg (Ne.symm hae)]
    · rw [record_update, if_neg hae]
  exact congrArg (Monitor.mk m.settings) hrecords

theorem launched_eq (m : Monitor) (now : Nat) (e : Endpoint) :
    (m.launch now e).value.2 = m.update e (·.acquire (m.admitsProbe now e)) := rfl

theorem judged_eq (m : Monitor) (now : Nat) (e : Endpoint) (v : Verdict) :
    (m.judge now e v).value.2 = m.update e (·.judge m.settings.threshold now v) := rfl

theorem moved_eq (m : Monitor) (now : Nat) (e : Endpoint) (v : Verdict) :
    (m.judge now e v).value.1 =
      (m.record e).moveTo? ((m.record e).judge m.settings.threshold now v) := rfl

/-- The end of a flight does not decide whether a request is admitted as a probe, unless it is
that of the probe in flight. -/
theorem admitsProbe_release (h : probe = true → e ≠ a) (now : Nat) :
    (m.release a probe).admitsProbe now e = m.admitsProbe now e := by
  rw [admitsProbe, record_release]
  split
  · next hea =>
    have hprobe : probe = false := Bool.eq_false_iff.mpr fun hp => h hp hea
    rw [hea, hprobe]
    exact HealthRecord.admitsProbe_release ..
  · rfl

/-- A slot may be given back before or after another request starts. -/
theorem release_launch (h : probe = true → e ≠ a) (ha : 0 < m.pending a) (now : Nat) :
    (m.launch now e).value.2.release a probe = ((m.release a probe).launch now e).value.2 := by
  rw [launched_eq, launched_eq, admitsProbe_release h]
  refine update_update_comm fun hae => ?_
  -- at the same instance the slot that is given back is not that of a probe
  have hprobe : probe = false := Bool.eq_false_iff.mpr fun hp => h hp hae.symm
  rw [pending_eq, hae] at ha
  rw [hprobe]
  exact HealthRecord.release_acquire ha _

/-- A slot may be given back before or after another request is judged. -/
theorem release_judge (m : Monitor) (a e : Endpoint) (probe : Bool) (now : Nat) (v : Verdict) :
    (m.judge now e v).value.2.release a probe =
      ((m.release a probe).judge now e v).value.2 := by
  rw [judged_eq, judged_eq]
  refine update_update_comm fun _ => ?_
  exact HealthRecord.release_judge ..

/-- Where an instance moves to does not depend on its slots. -/
theorem moved_release (m : Monitor) (a e : Endpoint) (probe : Bool) (now : Nat) (v : Verdict) :
    ((m.release a probe).judge now e v).value.1 = (m.judge now e v).value.1 := by
  rw [moved_eq, moved_eq, record_release]
  split
  · next he =>
    rw [he, ← HealthRecord.release_judge]
    rfl
  · rfl

theorem release_release (m : Monitor) (a e : Endpoint) (probe probe' : Bool) :
    (m.release e probe).release a probe' = (m.release a probe').release e probe := by
  refine update_update_comm fun _ => ?_
  exact HealthRecord.release_release ..

end Monitor

/-! ### Lists of flights -/

/-- A flight may be taken out of a list before or after another one is added. -/
theorem erase_schedule {f r : Flight} {l : List Flight} (hl : l.Pairwise (·.endsAt ≤ ·.endsAt))
    (hr : r ∈ l) : (schedule f l).erase r = schedule f (l.erase r) := by
  induction l with
  | nil => contradiction
  | cons g rest ih =>
    obtain ⟨hg, hrest⟩ := List.pairwise_cons.mp hl
    rw [schedule]
    split
    · next hle =>
      by_cases hgr : g = r
      · subst hgr
        rw [List.erase_cons_head, List.erase_cons_head]
      · have hr' : r ∈ rest := (List.mem_cons.mp hr).resolve_left (Ne.symm hgr)
        rw [List.erase_cons_tail (by simpa using hgr), List.erase_cons_tail (by simpa using hgr),
          schedule, if_pos hle, ih hrest hr']
    -- the new flight ends before all in the list, so it is another one
    · next hlt =>
      have hlate : ∀ x ∈ g :: rest, f.endsAt < x.endsAt := by
        intro x hx
        rcases List.mem_cons.mp hx with rfl | hx
        · exact Nat.lt_of_not_le hlt
        · exact Nat.lt_of_lt_of_le (Nat.lt_of_not_le hlt) (hg x hx)
      have hfr : f ≠ r := fun h => by
        have := hlate r hr
        rw [h] at this
        omega
      rw [List.erase_cons_tail (by simpa using hfr)]
      exact (schedule_of_lt fun x hx => hlate x (List.mem_of_mem_erase hx)).symm

theorem find?_erase_of_neg {r : Flight} {l : List Flight} {p : Flight → Bool} (hr : ¬p r = true) :
    (l.erase r).find? p = l.find? p := by
  induction l with
  | nil => rfl
  | cons g rest ih =>
    by_cases hgr : g = r
    · subst hgr
      rw [List.erase_cons_head, List.find?_cons_of_neg hr]
    · rw [List.erase_cons_tail (by simpa using hgr), List.find?_cons, List.find?_cons, ih]

namespace Simulation

variable {settings : HealthSettings} {network : Network} {sink : Sink} {h h' : History}
  {s s' : Simulation} {o : Occurrence} {e : Endpoint} {label : String} {r f : Flight}

/-- States are equal if they are so in every part.  This is said of the parts themselves, for
the kernel to compare them one by one. -/
theorem mk_congr {clock clock' : Nat} {monitor monitor' : Monitor} {network network' : Network}
    {sink sink' : Sink} {flights flights' : List Flight} {landed landed' : List Landing}
    (hclock : clock = clock') (hmonitor : monitor = monitor') (hnetwork : network = network')
    (hsink : sink = sink') (hflights : flights = flights') (hlanded : landed = landed') :
    mk clock monitor network sink flights landed =
      mk clock' monitor' network' sink' flights' landed' := by
  rw [hclock, hmonitor, hnetwork, hsink, hflights, hlanded]

/-! ### Starts and ends of others -/

/-- A request that starts depends on little of the state. -/
theorem newFlight_congr {t : Simulation} (hclock : s.clock = t.clock)
    (hsettings : s.monitor.settings = t.monitor.settings)
    (hbehaviours : s.network.behaviours = t.network.behaviours)
    (hadmits : s.monitor.admitsProbe s.clock e = t.monitor.admitsProbe t.clock e)
    (name : Option String) : s.newFlight name e = t.newFlight name e := by
  rw [newFlight, newFlight, hadmits, Network.behaviour, Network.behaviour, hbehaviours, hsettings,
    hclock]

theorem newFlight_drop (hprobe : r.probe = true → e ≠ r.endpoint) (name : Option String) :
    (s.drop r).newFlight name e = s.newFlight name e := by
  have hadmits : (s.drop r).monitor.admitsProbe (s.drop r).clock e =
      s.monitor.admitsProbe s.clock e := Monitor.admitsProbe_release hprobe s.clock
  refine newFlight_congr ?_ ?_ ?_ hadmits name
  all_goals rfl

/-- A request may be dropped before or after another one starts, unless it is a probe and the
other one could take its place. -/
theorem drop_depart (hs : s.Orderly) (hr : r ∈ s.flights) (hheld : 0 < s.monitor.pending r.endpoint)
    (hprobe : r.probe = true → e ≠ r.endpoint) (name : Option String) :
    (s.depart name e).value.drop r = ((s.drop r).depart name e).value := by
  have hmonitor : (s.monitor.launch s.clock e).value.2.release r.endpoint r.probe =
      ((s.drop r).monitor.launch s.clock e).value.2 :=
    Monitor.release_launch hprobe hheld s.clock
  have hflights : (schedule (s.newFlight name e) s.flights).erase r =
      schedule ((s.drop r).newFlight name e) (s.flights.erase r) := by
    rw [newFlight_drop hprobe, erase_schedule hs.pairwise hr]
  exact mk_congr rfl hmonitor rfl rfl hflights rfl

/-- A request may be dropped before or after another one ends. -/
theorem drop_land (s : Simulation) (r f : Flight) (x : Ending) :
    (s.land f x).value.drop r = ((s.drop r).land f x).value := by
  cases h : s.countable f with
  | true =>
    have h' : (s.drop r).countable f = true := h
    have hjudge := Monitor.release_judge s.monitor r.endpoint f.endpoint r.probe s.clock x.verdict
    have hmeasures : (s.drop r).measuresOf f x = s.measuresOf f x := by
      rw [measuresOf, measuresOf, movedBy, movedBy, drop, Monitor.moved_release]
    -- rewritten first, so that the counters need not be compared by evaluation
    have hsink : (s.drop r).sink = s.sink := rfl
    rw [value_land h, value_land h', hmeasures, hsink]
    rw [drop, drop, Monitor.release_release, hjudge]
  | false =>
    have h' : (s.drop r).countable f = false := h
    rw [value_land_of_lost h, value_land_of_lost h', drop, drop, Monitor.release_release]

theorem drop_drop (s : Simulation) (r f : Flight) : (s.drop f).drop r = (s.drop r).drop f := by
  rw [drop, drop, drop, drop, Monitor.release_release, List.erase_comm]

theorem drop_without (s : Simulation) (r f : Flight) :
    (s.without f).drop r = (s.drop r).without f := by
  rw [without, without, drop, drop, List.erase_comm]

/-! ### Advances -/

/-- A request that is not due may be dropped before or after time passes. -/
theorem drop_landUntil {t : Nat} (ht : t < r.endsAt) {fs : List Flight}
    (hfs : fs.Pairwise (·.endsAt ≤ ·.endsAt)) (s : Simulation) :
    (landUntil t fs s).value.drop r = (landUntil t (fs.erase r) (s.drop r)).value := by
  induction fs generalizing s with
  | nil => rfl
  | cons f rest ih =>
    obtain ⟨hf, hrest⟩ := List.pairwise_cons.mp hfs
    by_cases hdue : f.endsAt ≤ t
    -- the flight that ends is another one, as this one is not due
    · have hne : f ≠ r := fun h => by
        rw [h] at hdue
        omega
      have hland := drop_land { s.later f.endsAt with flights := rest } r f f.ending
      rw [List.erase_cons_tail (by simpa using hne), landUntil, if_pos hdue, landUntil, if_pos hdue,
        Logged.value_bind, Logged.value_bind, ih hrest, hland]
      rfl
    -- nothing else is due either
    · have hlate : ∀ g ∈ f :: rest, t < g.endsAt := by
        intro g hg
        rcases List.mem_cons.mp hg with rfl | hg
        · exact Nat.lt_of_not_le hdue
        · exact Nat.lt_of_lt_of_le (Nat.lt_of_not_le hdue) (hf g hg)
      have hlate' : ∀ g ∈ (f :: rest).erase r, t < g.endsAt := fun g hg =>
        hlate g (List.mem_of_mem_erase hg)
      rw [landUntil_of_forall_lt hlate, landUntil_of_forall_lt hlate']
      rfl

theorem drop_advanceTo (hs : s.Orderly) {t : Nat} (hr : r ∈ (s.advanceTo t).value.flights) :
    (s.advanceTo t).value.drop r = ((s.drop r).advanceTo t).value := by
  rw [flights_advanceTo] at hr
  exact drop_landUntil (lt_endsAt_of_mem_dropWhile hs.pairwise hr) hs.pairwise s

/-! ### Actions -/

namespace Action

/-- The name that an action mentions. -/
def label? : Action → Option String
  | start label _ => some label
  | send _ => none
  | join label => some label
  | cancel label => some label
  | advance _ => none
  | change _ _ => none

/-- The instance that an action sends a request to. -/
def recipient? : Action → Option Endpoint
  | start _ endpoint => some endpoint
  | send endpoint => some endpoint
  | _ => none

end Action

theorem mem_flights_of_advanceTo {t : Nat} (hf : f ∈ (s.advanceTo t).value.flights) :
    f ∈ s.flights := by
  rw [flights_advanceTo] at hf
  exact (List.dropWhile_sublist _).subset hf

theorem mem_flights_of_depart {name : Option String}
    (hf : f ∈ (s.depart name e).value.flights) (hname : f.label ≠ name) : f ∈ s.flights := by
  rcases List.mem_cons.mp ((perm_schedule _ _).mem_iff.mp hf) with rfl | hf
  · exact absurd rfl hname
  · exact hf

/-- A request that an action does not mention was in flight before if it is afterwards. -/
theorem mem_flights_of_perform {a : Action} (hlabel : r.label = some label)
    (ha : a.label? ≠ some label) (hr : r ∈ (s.perform a).value.flights) : r ∈ s.flights := by
  -- an action of another name starts no request of this one
  cases a with
  | start name e =>
    refine mem_flights_of_depart (mem_flights_of_advanceTo hr) ?_
    rw [hlabel]
    exact Ne.symm ha
  | send e =>
    refine mem_flights_of_depart (mem_flights_of_advanceTo hr) ?_
    rw [hlabel]
    exact Option.some_ne_none label
  | join name =>
    rw [perform, join] at hr
    split at hr
    · exact hr
    · exact mem_flights_of_advanceTo hr
  | cancel name =>
    rw [perform, cancel] at hr
    split at hr
    · exact hr
    · exact List.mem_of_mem_erase hr
  | advance ms => exact mem_flights_of_advanceTo hr
  | change e c => exact hr

theorem inFlight?_drop (hlabel : r.label = some label) {name : String} (hname : name ≠ label) :
    (s.drop r).inFlight? name = s.inFlight? name := by
  refine find?_erase_of_neg ?_
  rw [hlabel]
  simpa using Ne.symm hname

/-- **A request may be dropped before or after an action** that does not mention it, if it is
in flight all the while, unless it is a probe and the action sends a request in its place. -/
theorem drop_perform (hs : s.Orderly) (hheld : 0 < s.monitor.pending r.endpoint)
    (hlabel : r.label = some label) {a : Action} (ha : a.label? ≠ some label)
    (hprobe : r.probe = true → a.recipient? ≠ some r.endpoint)
    (hr : r ∈ (s.perform a).value.flights) :
    (s.perform a).value.drop r = ((s.drop r).perform a).value := by
  have hbefore := mem_flights_of_perform hlabel ha hr
  cases a with
  | start name e =>
    -- a probe keeps others from being one, so no request to its instance may start
    have he : r.probe = true → e ≠ r.endpoint := fun h he => hprobe h (congrArg some he)
    have hdepart := drop_depart hs hbefore hheld he (some name)
    have hadvance := drop_advanceTo (orderly_depart hs (some name) e) hr
    rw [perform, perform, start, start, Logged.value_bind, Logged.value_bind, hadvance, hdepart]
    rfl
  | send e =>
    have he : r.probe = true → e ≠ r.endpoint := fun h he => hprobe h (congrArg some he)
    have hdepart := drop_depart hs hbefore hheld he none
    have hadvance := drop_advanceTo (orderly_depart hs none e) hr
    rw [perform, perform, send, send, Logged.value_bind, Logged.value_bind, newFlight_drop he,
      hadvance, hdepart]
  | join name =>
    -- the request that is waited for is another one
    have hname : name ≠ label := fun h => ha (congrArg some h)
    rw [perform, perform, join, join, inFlight?_drop hlabel hname]
    rw [perform, join] at hr
    cases hf : s.inFlight? name with
    | none => rfl
    | some f =>
      rw [hf] at hr
      exact drop_advanceTo hs hr
  | cancel name =>
    have hname : name ≠ label := fun h => ha (congrArg some h)
    rw [perform, perform, cancel, cancel, inFlight?_drop hlabel hname]
    cases s.inFlight? name with
    | none => rfl
    | some f => exact drop_drop s r f
  | advance ms => exact drop_advanceTo hs hr
  | change e c => rfl

theorem mem_flights_of_run {as : List Action} (hlabel : r.label = some label)
    (has : ∀ a ∈ as, a.label? ≠ some label) (hr : r ∈ (s.run as).value.flights) :
    r ∈ s.flights := by
  induction as generalizing s with
  | nil => exact hr
  | cons a rest ih =>
    obtain ⟨ha, hrest⟩ := List.forall_mem_cons.mp has
    exact mem_flights_of_perform hlabel ha (ih hrest hr)

theorem pending_pos_of_mem (hc : Course (fresh settings network sink) h s) (hr : r ∈ s.flights) :
    0 < s.monitor.pending r.endpoint := by
  rw [pending_course hc]
  exact List.length_pos_of_mem (mem_flights_station.mpr ⟨hr, rfl⟩)

/-- **A request may be dropped before or after a list of actions** that do not mention it, if it
is in flight all the while, unless it is a probe and a request is sent in its place. -/
theorem drop_run (hc : Course (fresh settings network sink) h s) (hlabel : r.label = some label)
    {as : List Action} (has : ∀ a ∈ as, a.label? ≠ some label)
    (hprobe : r.probe = true → ∀ a ∈ as, a.recipient? ≠ some r.endpoint)
    (hr : r ∈ (s.run as).value.flights) :
    (s.run as).value.drop r = ((s.drop r).run as).value := by
  induction as generalizing s h with
  | nil => rfl
  | cons a rest ih =>
    obtain ⟨ha, hrest⟩ := List.forall_mem_cons.mp has
    have hs : s.Orderly := orderly_course hc (orderly_fresh ..)
    -- no action puts the request in flight, so it has been there all the while
    have hafter : r ∈ (s.perform a).value.flights := mem_flights_of_run hlabel hrest hr
    have hheld := pending_pos_of_mem hc (mem_flights_of_perform hlabel ha hafter)
    have hperform := drop_perform hs hheld hlabel ha
      (fun h => hprobe h a List.mem_cons_self) hafter
    have hrun := ih (hc.trans (course_historyOf hs a)) hrest
      (fun h b hb => hprobe h b (List.mem_cons_of_mem a hb)) hr
    calc (s.run (a :: rest)).value.drop r
      _ = (((s.perform a).value.drop r).run rest).value := hrun
      _ = (((s.drop r).perform a).value.run rest).value := by rw [hperform]

/-! ### Courses -/

theorem mem_flights_drop_of_mem_erase (hr : r ∈ s.flights.erase f) (hf : f ∈ s.flights) :
    f ∈ (s.drop r).flights := by
  show f ∈ s.flights.erase r
  by_cases hfr : f = r
  · rwa [hfr] at hr ⊢
  · exact (List.mem_erase_of_ne hfr).mpr hf

/-- **A request may be dropped before or after a step** if it is in flight all the while, unless
it is a probe and the step is a start in its place. -/
theorem drop_step (hs : s.Orderly) (hheld : 0 < s.monitor.pending r.endpoint)
    (hstep : Step s o s') (hr : r ∈ s.flights) (hr' : r ∈ s'.flights)
    (hprobe : r.probe = true → ∀ f, o.started? = some f → f.endpoint ≠ r.endpoint) :
    Step (s.drop r) o (s'.drop r) := by
  cases hstep with
  | depart name e =>
    have he : r.probe = true → e ≠ r.endpoint := fun h => hprobe h _ rfl
    rw [drop_depart hs hr hheld he, ← newFlight_drop he]
    exact Step.depart (s.drop r) name e
  -- the request is still in flight, so the one that ends is found without it
  | @land f x hf hpoll h =>
    rw [flights_land] at hr'
    rw [drop_land, drop_without]
    exact Step.land (s := s.drop r) (mem_flights_drop_of_mem_erase hr' hf) hpoll h
  | @lose f x hf hpoll h =>
    rw [flights_land] at hr'
    rw [drop_land, drop_without]
    exact Step.lose (s := s.drop r) (mem_flights_drop_of_mem_erase hr' hf) hpoll h
  | @drop f hf =>
    rw [drop_drop]
    exact Step.drop (mem_flights_drop_of_mem_erase hr' hf)
  | wait hclock hsleep =>
    -- without the request there are fewer timers to stop at
    exact Step.wait (s := s.drop r) hclock fun hlt g hg => hsleep hlt g (List.mem_of_mem_erase hg)
  | change e c => exact Step.change (s.drop r) e c

/-- **A request may be dropped before or after a course** in which it is in flight all the while,
unless it is a probe and a request starts in its place. -/
theorem drop_course (hc : Course (fresh settings network sink) h s) (hc' : Course s h' s')
    (hr : ∀ m ∈ h', r ∈ m.before.flights) (hr' : r ∈ s'.flights)
    (hprobe : r.probe = true → ∀ m ∈ h', ∀ f, m.what.started? = some f → f.endpoint ≠ r.endpoint) :
    ∃ h'', Course (s.drop r) h'' (s'.drop r) ∧ h''.occurrences = h'.occurrences := by
  induction hc' with
  | start => exact ⟨[], Course.start, rfl⟩
  | @step h' s' s'' o hc' hstep ih =>
    obtain ⟨hr, hnow⟩ := List.forall_mem_append.mp hr
    have hflying : r ∈ s'.flights := hnow _ (List.mem_singleton_self _)
    obtain ⟨h'', hcourse, hsame⟩ := ih hr hflying fun h m hm =>
      hprobe h m (List.mem_append_left _ hm)
    -- the slot of the request is taken, as the course began with none in flight
    have hall := hc.trans hc'
    have hdropped := drop_step (orderly_course hall (orderly_fresh ..))
      (pending_pos_of_mem hall hflying) hstep hflying hr' fun h f hf =>
        hprobe h _ (List.mem_append_right _ (List.mem_singleton_self _)) f hf
    refine ⟨h'' ++ [⟨s'.drop r, o⟩], hcourse.step hdropped, ?_⟩
    rw [History.occurrences_append, History.occurrences_append, hsame]
    rfl

end Simulation
end PartitionRouting
