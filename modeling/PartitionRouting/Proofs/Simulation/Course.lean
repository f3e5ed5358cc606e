import PartitionRouting.Proofs.Simulation.Effect

/-!
# Courses of a simulation

A simulation moves in small steps: a request starts, ends or is dropped, time passes, or
an instance changes its behaviour.  A request ends when a poll of it finds something, and
time passes only while all requests in flight sleep.  A course is any sequence of such
steps, in whatever order the requests interleave; of requests that end at the same time any
may end first, and a request that is due may still be overtaken by a start or be dropped.
What `Simulation.run` does for a list of actions is one course among these.

## Main definitions

* `Simulation.Occurrence`, `Simulation.Step` — what can happen, and the step that it is.
* `Simulation.History`, `Simulation.Course` — what has happened, in order, each with the
  state it happened in; and the courses that it is the history of.
* `Simulation.after`, `History.occurrences` — the state after something happened, and what
  happened without the states.
* `History.started`, `completed`, `lost`, `cancelled` — the requests to an instance that
  started and that ended in each way.
* `Simulation.Orderly` — the flights are ordered by end, and none is overdue or goes to an
  instance without a record.
* `Simulation.history` — the history of a list of actions.

## Main results

* `Simulation.Course.eq_foldl` — what happens determines the state.
* `Simulation.orderly_step` — a step keeps the flights in order, and overtakes the end of none.
* `Simulation.Orderly.due` — **a poll that finds something is the one at the end.**
* `Simulation.course_history` — **every run is a course.**
-/

namespace PartitionRouting

open Std

namespace Simulation

/-! ### Steps -/

/-- Something that happens in a simulation. -/
inductive Occurrence
  /-- A request started. -/
  | departed (f : Flight)
  /-- A request ended and was accounted for. -/
  | landed (f : Flight)
  /-- A request ended, but the time that it took could not be counted. -/
  | lost (f : Flight)
  /-- A request was dropped before its end. -/
  | dropped (f : Flight)
  /-- Time passed. -/
  | waited (t : Nat)
  /-- An instance changed its behaviour. -/
  | changed (endpoint : Endpoint) (c : BehaviourChange)
  deriving DecidableEq, Repr

/-- The state in which a flight is no longer in the list of flights. -/
def without (s : Simulation) (f : Flight) : Simulation :=
  { s with flights := s.flights.erase f }

/-- **One step of a simulation.**  A request ends with what a poll at present finds.  Time does
not pass while a poll would find something, nor beyond the next timer. -/
inductive Step : Simulation → Occurrence → Simulation → Prop
  /-- A request starts. -/
  | depart (s : Simulation) (label : Option String) (e : Endpoint) :
    Step s (.departed (s.newFlight label e)) (s.depart label e).value
  /-- A request ends and is accounted for. -/
  | land {s : Simulation} {f : Flight} {x : Ending} (hf : f ∈ s.flights)
    (hpoll : f.poll s.clock = some x) (h : s.countable f) :
    Step s (.landed f) ((s.without f).land f x).value
  /-- A request ends and is lost. -/
  | lose {s : Simulation} {f : Flight} {x : Ending} (hf : f ∈ s.flights)
    (hpoll : f.poll s.clock = some x) (h : s.countable f = false) :
    Step s (.lost f) ((s.without f).land f x).value
  /-- A request is dropped. -/
  | drop {s : Simulation} {f : Flight} (hf : f ∈ s.flights) : Step s (.dropped f) (s.drop f)
  /-- Time passes. -/
  | wait {s : Simulation} {t : Nat} (hclock : s.clock ≤ t)
    (hsleep : s.clock < t → ∀ g ∈ s.flights, g.Sleeps s.clock t) :
    Step s (.waited t) (s.later t)
  /-- An instance changes its behaviour. -/
  | change (s : Simulation) (e : Endpoint) (c : BehaviourChange) :
    Step s (.changed e c) (s.change e c)

/-! ### Histories and courses -/

/-- Something that happened, with the state that it happened in. -/
structure Moment where
  /-- The state before. -/
  before : Simulation
  /-- What happened. -/
  what : Occurrence

/-- What has happened, the earliest first. -/
abbrev History := List Moment

/-- `Course s₀ h s` says that steps lead from `s₀` to `s` and that `h` is their history. -/
inductive Course (s₀ : Simulation) : History → Simulation → Prop
  /-- Nothing has happened. -/
  | start : Course s₀ [] s₀
  /-- One step more. -/
  | step {h : History} {s s' : Simulation} {o : Occurrence} (hc : Course s₀ h s)
    (hs : Step s o s') : Course s₀ (h ++ [⟨s, o⟩]) s'

theorem Course.cons {s s' s'' : Simulation} {o : Occurrence} {h : History} (hs : Step s o s')
    (hc : Course s' h s'') : Course s (⟨s, o⟩ :: h) s'' := by
  induction hc with
  | start => exact Course.start.step hs
  | step _ hs' ih => exact ih.step hs'

theorem Course.trans {s s' s'' : Simulation} {h h' : History} (hc : Course s h s')
    (hc' : Course s' h' s'') : Course s (h ++ h') s'' := by
  induction hc' with
  | start => rwa [List.append_nil]
  | step _ hs ih => rw [← List.append_assoc]; exact ih.step hs

/-- What happened in a course was a step from a state that the course had led to. -/
theorem Course.exists_step {s₀ s : Simulation} {h : History} (hc : Course s₀ h s) {m : Moment}
    (hm : m ∈ h) : ∃ h' s', Course s₀ h' m.before ∧ Step m.before m.what s' := by
  induction hc with
  | start => contradiction
  | @step h s s' o hc hs ih =>
    rcases List.mem_append.mp hm with hm | hm
    · exact ih hm
    · rw [List.mem_singleton.mp hm]
      exact ⟨h, s', hc, hs⟩

theorem Course.eq_of_nil {s s' : Simulation} (hc : Course s [] s') : s' = s := by
  generalize hk : ([] : History) = k at hc
  cases hc with
  | start => rfl
  | step _ _ => simp at hk

/-- A course that begins with a moment goes on from the state after it. -/
theorem Course.exists_of_cons {s s'' : Simulation} {m : Moment} {h : History}
    (hc : Course s (m :: h) s'') : m.before = s ∧ ∃ s', Step s m.what s' ∧ Course s' h s'' := by
  generalize hk : m :: h = k at hc
  induction hc generalizing h with
  | start => contradiction
  | @step k u u' o hc hs ih =>
    cases k with
    | nil =>
      obtain ⟨rfl, rfl⟩ := List.cons.inj hk
      obtain rfl := hc.eq_of_nil
      exact ⟨rfl, u', hs, Course.start⟩
    | cons m' k =>
      obtain ⟨rfl, rfl⟩ := List.cons.inj hk
      obtain ⟨hbefore, s', hfirst, hrest⟩ := ih rfl
      exact ⟨hbefore, s', hfirst, hrest.step hs⟩

theorem Course.exists_of_append {s s'' : Simulation} {h h' : History}
    (hc : Course s (h ++ h') s'') : ∃ s', Course s h s' ∧ Course s' h' s'' := by
  induction h generalizing s with
  | nil => exact ⟨s, Course.start, hc⟩
  | cons m h ih =>
    obtain ⟨rfl, u, hs, hrest⟩ := hc.exists_of_cons
    obtain ⟨s', hfirst, hsecond⟩ := ih hrest
    exact ⟨s', Course.cons hs hfirst, hsecond⟩

/-- The state after a flight was polled, and has ended if the poll found something. -/
def polled (s : Simulation) (f : Flight) : Simulation :=
  (f.poll s.clock).elim s fun x => ((s.without f).land f x).value

/-- The state after something happened. -/
def after (s : Simulation) : Occurrence → Simulation
  | .departed f => (s.depart f.label f.endpoint).value
  | .landed f => s.polled f
  | .lost f => s.polled f
  | .dropped f => s.drop f
  | .waited t => s.later t
  | .changed e c => s.change e c

/-- What happens determines the state. -/
theorem Step.eq_after {s s' : Simulation} {o : Occurrence} (hs : Step s o s') : s' = s.after o := by
  cases hs with
  | land _ hpoll _ => rw [after, polled, hpoll, Option.elim_some]
  | lose _ hpoll _ => rw [after, polled, hpoll, Option.elim_some]
  | depart _ _ => rfl
  | drop _ => rfl
  | wait _ _ => rfl
  | change _ _ => rfl

/-- What happened, without the states. -/
def History.occurrences (h : History) : List Occurrence := h.map Moment.what

theorem History.occurrences_append (h h' : History) :
    (h ++ h').occurrences = h.occurrences ++ h'.occurrences := List.map_append

theorem Course.eq_foldl {s s' : Simulation} {h : History} (hc : Course s h s') :
    s' = h.occurrences.foldl after s := by
  induction hc with
  | start => rfl
  | @step h u u' o hc hs ih =>
    rw [History.occurrences_append, List.foldl_append, ← ih]
    exact hs.eq_after

/-! ### The requests of a history -/

namespace Occurrence

/-- The request that started. -/
def started? : Occurrence → Option Flight
  | departed f => some f
  | _ => none

/-- The request that ended and was accounted for. -/
def completed? : Occurrence → Option Flight
  | landed f => some f
  | _ => none

/-- The request that was lost. -/
def lost? : Occurrence → Option Flight
  | lost f => some f
  | _ => none

/-- The request that was dropped. -/
def cancelled? : Occurrence → Option Flight
  | dropped f => some f
  | _ => none

/-- The request that something happened to. -/
def request? : Occurrence → Option Flight
  | departed f => some f
  | landed f => some f
  | lost f => some f
  | dropped f => some f
  | _ => none

theorem started?_eq_some_iff {o : Occurrence} {f : Flight} :
    o.started? = some f ↔ o = .departed f := by
  cases o <;> simp [started?]

theorem completed?_eq_some_iff {o : Occurrence} {f : Flight} :
    o.completed? = some f ↔ o = .landed f := by
  cases o <;> simp [completed?]

theorem lost?_eq_some_iff {o : Occurrence} {f : Flight} : o.lost? = some f ↔ o = .lost f := by
  cases o <;> simp [lost?]

theorem request?_eq_some_iff {o : Occurrence} {f : Flight} :
    o.request? = some f ↔
      o.started? = some f ∨ o.completed? = some f ∨ o.lost? = some f ∨ o.cancelled? = some f := by
  cases o <;> simp [request?, started?, completed?, lost?, cancelled?]

end Occurrence

namespace History

/-- The requests to `e` that a history mentions in a given way, in order. -/
def requests (way : Occurrence → Option Flight) (h : History) (e : Endpoint) : List Flight :=
  (h.filterMap fun m => way m.what).filter (·.endpoint = e)

/-- The requests to `e` that have started. -/
def started : History → Endpoint → List Flight := requests Occurrence.started?

/-- The requests to `e` that have ended and were accounted for. -/
def completed : History → Endpoint → List Flight := requests Occurrence.completed?

/-- The requests to `e` that have ended and were lost. -/
def lost : History → Endpoint → List Flight := requests Occurrence.lost?

/-- The requests to `e` that were dropped. -/
def cancelled : History → Endpoint → List Flight := requests Occurrence.cancelled?

theorem mem_requests {way : Occurrence → Option Flight} {h : History} {e : Endpoint}
    {f : Flight} : f ∈ requests way h e ↔ (∃ m ∈ h, way m.what = some f) ∧ f.endpoint = e := by
  rw [requests, List.mem_filter, List.mem_filterMap, decide_eq_true_eq]

/-- One history after another mentions the requests of both. -/
theorem requests_append (way : Occurrence → Option Flight) (h h' : History) (e : Endpoint) :
    requests way (h ++ h') e = requests way h e ++ requests way h' e := by
  rw [requests, List.filterMap_append, List.filter_append]
  rfl

section Concat

variable {way : Occurrence → Option Flight} {h : History} {s : Simulation} {o : Occurrence}
  {e : Endpoint}

/-- One more moment mentions at most one more request. -/
theorem requests_concat (way : Occurrence → Option Flight) (h : History) (s : Simulation)
    (o : Occurrence) (e : Endpoint) :
    requests way (h ++ [⟨s, o⟩]) e =
      requests way h e ++ (way o).toList.filter (·.endpoint = e) := by
  rw [requests_append]
  cases ho : way o <;> simp [requests, ho]

theorem mem_requests_concat {f : Flight} :
    f ∈ requests way (h ++ [⟨s, o⟩]) e ↔
      f ∈ requests way h e ∨ way o = some f ∧ f.endpoint = e := by
  rw [requests_concat, List.mem_append, List.mem_filter, Option.mem_toList, decide_eq_true_eq]

theorem requests_concat_of_some {f : Flight} (hway : way o = some f) (he : f.endpoint = e) :
    requests way (h ++ [⟨s, o⟩]) e = requests way h e ++ [f] := by
  rw [requests_concat, hway]
  simp [he]

theorem requests_concat_of_none (hway : way o = none) :
    requests way (h ++ [⟨s, o⟩]) e = requests way h e := by
  rw [requests_concat, hway]
  exact List.append_nil _

/-- What happens to the requests of other instances is not mentioned. -/
theorem requests_concat_of_ne (hway : ∀ f, way o = some f → o.request? = some f)
    (ho : ∀ f, o.request? = some f → f.endpoint ≠ e) :
    requests way (h ++ [⟨s, o⟩]) e = requests way h e := by
  cases hw : way o with
  | none => exact requests_concat_of_none hw
  | some f =>
    have hne := ho f (hway f hw)
    rw [requests_concat, hw]
    simp [hne]

/-- What concerns no request to `e` leaves every list of requests to `e` as it is. -/
theorem concat_of_other (ho : ∀ f, o.request? = some f → f.endpoint ≠ e) :
    started (h ++ [⟨s, o⟩]) e = started h e ∧ completed (h ++ [⟨s, o⟩]) e = completed h e ∧
      lost (h ++ [⟨s, o⟩]) e = lost h e ∧ cancelled (h ++ [⟨s, o⟩]) e = cancelled h e := by
  have hway := @Occurrence.request?_eq_some_iff o
  refine ⟨?_, ?_, ?_, ?_⟩
  · exact requests_concat_of_ne (fun f hf => hway.mpr (Or.inl hf)) ho
  · exact requests_concat_of_ne (fun f hf => hway.mpr (Or.inr (Or.inl hf))) ho
  · exact requests_concat_of_ne (fun f hf => hway.mpr (Or.inr (Or.inr (Or.inl hf)))) ho
  · exact requests_concat_of_ne (fun f hf => hway.mpr (Or.inr (Or.inr (Or.inr hf)))) ho

theorem concat_departed {f : Flight} (he : f.endpoint = e) :
    started (h ++ [⟨s, .departed f⟩]) e = started h e ++ [f] ∧
      completed (h ++ [⟨s, .departed f⟩]) e = completed h e ∧
      lost (h ++ [⟨s, .departed f⟩]) e = lost h e ∧
      cancelled (h ++ [⟨s, .departed f⟩]) e = cancelled h e :=
  ⟨requests_concat_of_some rfl he, requests_concat_of_none rfl, requests_concat_of_none rfl,
    requests_concat_of_none rfl⟩

theorem concat_landed {f : Flight} (he : f.endpoint = e) :
    started (h ++ [⟨s, .landed f⟩]) e = started h e ∧
      completed (h ++ [⟨s, .landed f⟩]) e = completed h e ++ [f] ∧
      lost (h ++ [⟨s, .landed f⟩]) e = lost h e ∧
      cancelled (h ++ [⟨s, .landed f⟩]) e = cancelled h e :=
  ⟨requests_concat_of_none rfl, requests_concat_of_some rfl he, requests_concat_of_none rfl,
    requests_concat_of_none rfl⟩

theorem concat_lost {f : Flight} (he : f.endpoint = e) :
    started (h ++ [⟨s, .lost f⟩]) e = started h e ∧
      completed (h ++ [⟨s, .lost f⟩]) e = completed h e ∧
      lost (h ++ [⟨s, .lost f⟩]) e = lost h e ++ [f] ∧
      cancelled (h ++ [⟨s, .lost f⟩]) e = cancelled h e :=
  ⟨requests_concat_of_none rfl, requests_concat_of_none rfl, requests_concat_of_some rfl he,
    requests_concat_of_none rfl⟩

theorem concat_dropped {f : Flight} (he : f.endpoint = e) :
    started (h ++ [⟨s, .dropped f⟩]) e = started h e ∧
      completed (h ++ [⟨s, .dropped f⟩]) e = completed h e ∧
      lost (h ++ [⟨s, .dropped f⟩]) e = lost h e ∧
      cancelled (h ++ [⟨s, .dropped f⟩]) e = cancelled h e ++ [f] :=
  ⟨requests_concat_of_none rfl, requests_concat_of_none rfl, requests_concat_of_none rfl,
    requests_concat_of_some rfl he⟩

end Concat

end History

/-! ### Runs -/

/-- The flights are ordered by end, none is overdue, and each goes to an instance that
has a record. -/
structure Orderly (s : Simulation) : Prop where
  /-- The flights are ordered by end. -/
  pairwise : s.flights.Pairwise (·.endsAt ≤ ·.endsAt)
  /-- No flight is overdue. -/
  clock_le : ∀ f ∈ s.flights, s.clock ≤ f.endsAt
  /-- The instance of a flight has a record. -/
  contacted : ∀ f ∈ s.flights, f.endpoint ∈ s.monitor.records

theorem orderly_fresh (settings : HealthSettings) (network : Network) (sink : Sink) :
    (fresh settings network sink).Orderly := ⟨List.Pairwise.nil, nofun, nofun⟩

section Land

variable {s : Simulation} {f : Flight} {x : Ending}

@[simp] theorem flights_land : (s.land f x).value.flights = s.flights := by
  cases h : s.countable f with
  | true => rw [value_land h]
  | false => rw [value_land_of_lost h]

@[simp] theorem clock_land : (s.land f x).value.clock = s.clock := by
  cases h : s.countable f with
  | true => rw [value_land h]
  | false => rw [value_land_of_lost h]

@[simp] theorem settings_land : (s.land f x).value.monitor.settings = s.monitor.settings := by
  cases h : s.countable f with
  | true => rw [value_land h]; rfl
  | false => rw [value_land_of_lost h]; rfl

theorem network_land : (s.land f x).value.network = s.network := by
  cases h : s.countable f with
  | true => rw [value_land h]
  | false => rw [value_land_of_lost h]

theorem landed_land :
    (s.land f x).value.landed =
      if s.countable f then s.landed ++ [⟨f, s.clock, x⟩] else s.landed := by
  cases h : s.countable f with
  | true => rw [value_land h, if_pos rfl]
  | false => rw [value_land_of_lost h, if_neg Bool.false_ne_true]

/-- An end takes no record away. -/
theorem mem_records_land {a : Endpoint} (ha : a ∈ s.monitor.records) :
    a ∈ (s.land f x).value.monitor.records := by
  cases h : s.countable f with
  | true =>
    rw [value_land h]
    exact Monitor.mem_records_update.mpr (Or.inr (Monitor.mem_records_update.mpr (Or.inr ha)))
  | false =>
    rw [value_land_of_lost h]
    exact Monitor.mem_records_update.mpr (Or.inr ha)

/-- The flights stay in order until one of them ends. -/
theorem orderly_later {t : Nat} (hs : s.Orderly) (ht : ∀ g ∈ s.flights, t ≤ g.endsAt) :
    (s.later t).Orderly := ⟨hs.pairwise, ht, hs.contacted⟩

/-- **A poll that finds something is the one at the end**, as no flight is overdue. -/
theorem Orderly.due (hs : s.Orderly) (hf : f ∈ s.flights) (hpoll : f.poll s.clock = some x) :
    s.clock = f.endsAt ∧ x = f.ending := Flight.eq_of_poll (hs.clock_le f hf) hpoll

theorem orderly_land (hs : s.Orderly) : ((s.without f).land f x).value.Orderly where
  pairwise := by
    rw [flights_land]
    exact hs.pairwise.sublist List.erase_sublist
  clock_le g hg := by
    rw [flights_land] at hg
    rw [clock_land]
    exact hs.clock_le g (List.mem_of_mem_erase hg)
  contacted g hg := by
    rw [flights_land] at hg
    exact mem_records_land (hs.contacted g (List.mem_of_mem_erase hg))

end Land

/-- A request ends with what a poll finds, whether its time can be counted or not. -/
theorem step_land {s : Simulation} {f : Flight} {x : Ending} (hf : f ∈ s.flights)
    (hpoll : f.poll s.clock = some x) :
    Step s (if s.countable f then .landed f else .lost f) ((s.without f).land f x).value := by
  cases h : s.countable f with
  | true => exact Step.land hf hpoll h
  | false => exact Step.lose hf hpoll h

theorem clock_le_endsAt_newFlight (s : Simulation) (label : Option String) (e : Endpoint) :
    s.clock ≤ (s.newFlight label e).endsAt := (s.newFlight label e).startedAt_le_endsAt

/-- Time may pass until a flight ends. -/
theorem step_wait {s : Simulation} {t : Nat} (ht : s.clock ≤ t)
    (hflights : ∀ g ∈ s.flights, t ≤ g.endsAt) : Step s (.waited t) (s.later t) :=
  Step.wait ht fun hlt g hg =>
    Flight.sleeps_iff.mpr ⟨Nat.lt_of_lt_of_le hlt (hflights g hg), hflights g hg⟩

theorem orderly_step {s s' : Simulation} {o : Occurrence} (hs : Step s o s') (h : s.Orderly) :
    s'.Orderly := by
  cases hs with
  | depart label e =>
    refine ⟨pairwise_schedule h.pairwise, fun f hf => ?_, fun f hf => ?_⟩
    · rcases List.mem_cons.mp ((perm_schedule _ _).mem_iff.mp hf) with rfl | hf
      · exact clock_le_endsAt_newFlight s label e
      · exact h.clock_le f hf
    · rcases List.mem_cons.mp ((perm_schedule _ _).mem_iff.mp hf) with rfl | hf
      · exact Monitor.mem_records_update.mpr (Or.inl rfl)
      · exact Monitor.mem_records_update.mpr (Or.inr (h.contacted f hf))
  | land _ _ _ => exact orderly_land h
  | lose _ _ _ => exact orderly_land h
  | drop _ =>
    exact ⟨h.pairwise.sublist List.erase_sublist,
      fun g hg => h.clock_le g (List.mem_of_mem_erase hg),
      fun g hg => Monitor.mem_records_update.mpr
        (Or.inr (h.contacted g (List.mem_of_mem_erase hg)))⟩
  | wait hclock hsleep =>
    refine orderly_later h fun g hg => ?_
    -- a flight that sleeps until then has not ended before
    rcases Nat.eq_or_lt_of_le hclock with rfl | hlt
    · exact h.clock_le g hg
    · exact (Flight.sleeps_iff.mp (hsleep hlt g hg)).2
  | change e c => exact ⟨h.pairwise, h.clock_le, h.contacted⟩

theorem orderly_course {s s' : Simulation} {h : History} (hc : Course s h s')
    (hs : s.Orderly) : s'.Orderly := by
  induction hc with
  | start => exact hs
  | step _ hstep ih => exact orderly_step hstep ih

/-- No step changes the thresholds. -/
theorem settings_step {s s' : Simulation} {o : Occurrence} (hs : Step s o s') :
    s'.monitor.settings = s.monitor.settings := by
  cases hs with
  | depart label e => rfl
  | land _ _ _ => exact settings_land
  | lose _ _ _ => exact settings_land
  | drop _ => rfl
  | wait _ _ => rfl
  | change e c => rfl

theorem settings_course {s s' : Simulation} {h : History} (hc : Course s h s') :
    s'.monitor.settings = s.monitor.settings := by
  induction hc with
  | start => rfl
  | step _ hs ih => rw [settings_step hs, ih]

/-- A step leaves the records of the instances that it does not concern as they are. -/
theorem record_step_of_ne {s s' : Simulation} {o : Occurrence} {e : Endpoint} (hs : Step s o s')
    (ho : ∀ f, o.request? = some f → f.endpoint ≠ e) :
    s'.monitor.record e = s.monitor.record e := by
  cases hs with
  | depart label a =>
    have he : e ≠ a := (ho _ rfl).symm
    rw [record_depart, if_neg he]
  | @land f x _ _ h =>
    have hrecord := record_land (s := s.without f) (x := x) h e
    rw [hrecord, if_neg (ho f rfl).symm]
    rfl
  | @lose f x _ _ h =>
    have hrecord := record_land_of_lost (s := s.without f) (x := x) h e
    rw [hrecord, if_neg (ho f rfl).symm]
    rfl
  | @drop f _ => rw [record_drop, if_neg (ho f rfl).symm]
  | wait _ _ => rfl
  | change a c => rfl

/-- A request that starts takes a slot of its instance. -/
theorem record_step_of_departed {s s' : Simulation} {f : Flight} (hs : Step s (.departed f) s')
    (e : Endpoint) :
    s'.monitor.record e =
      if e = f.endpoint then (s.monitor.record e).acquire f.probe else s.monitor.record e := by
  cases hs with
  | depart label a =>
    have hf : (s.newFlight label a).endpoint = a := rfl
    rw [record_depart, hf]
    by_cases ha : e = a
    · rw [if_pos ha, if_pos ha, ha]
    · rw [if_neg ha, if_neg ha]

/-- The clock does not go back. -/
theorem clock_le_of_step {s s' : Simulation} {o : Occurrence} (hs : Step s o s') :
    s.clock ≤ s'.clock := by
  cases hs with
  | depart label e => exact Nat.le_refl _
  | land _ _ _ =>
    rw [clock_land]
    exact Nat.le_refl _
  | lose _ _ _ =>
    rw [clock_land]
    exact Nat.le_refl _
  | drop _ => exact Nat.le_refl _
  | wait hclock _ => exact hclock
  | change e c => exact Nat.le_refl _

theorem clock_le_of_course {s s' : Simulation} {h : History} (hc : Course s h s') :
    s.clock ≤ s'.clock := by
  induction hc with
  | start => exact Nat.le_refl _
  | step _ hstep ih => exact Nat.le_trans ih (clock_le_of_step hstep)

/-- What happens while the listed flights that end by time `t` do so. -/
def landings (t : Nat) : List Flight → Simulation → History
  | [], s => [⟨s, .waited t⟩]
  | f :: rest, s =>
    if f.endsAt ≤ t then
      ⟨s, .waited f.endsAt⟩ ::
        ⟨s.later f.endsAt, if (s.later f.endsAt).countable f then .landed f else .lost f⟩ ::
        landings t rest (land { s.later f.endsAt with flights := rest } f f.ending).value
    else [⟨s, .waited t⟩]

/-- What happens during an action. -/
def historyOf (s : Simulation) : Action → History
  | .start label e =>
    let s' := (s.depart (some label) e).value
    ⟨s, .departed (s.newFlight (some label) e)⟩ :: landings s'.clock s'.flights s'
  | .send e =>
    let s' := (s.depart none e).value
    ⟨s, .departed (s.newFlight none e)⟩ ::
      landings (s.newFlight none e).endsAt s'.flights s'
  | .join label =>
    match s.inFlight? label with
    | none => []
    | some f => landings f.endsAt s.flights s
  | .cancel label =>
    match s.inFlight? label with
    | none => []
    | some f => [⟨s, .dropped f⟩]
  | .advance ms => landings (s.clock + ms) s.flights s
  | .change e c => [⟨s, .changed e c⟩]

/-- What happens during a sequence of actions. -/
def history (s : Simulation) : List Action → History
  | [] => []
  | a :: rest => s.historyOf a ++ (s.perform a).value.history rest

/-- The first flight of the list ends before all others. -/
theorem Orderly.endsAt_le {s : Simulation} (hs : s.Orderly) {f : Flight} {rest : List Flight}
    (hfs : s.flights = f :: rest) : ∀ g ∈ s.flights, f.endsAt ≤ g.endsAt := by
  have hpair := hs.pairwise
  rw [hfs, List.pairwise_cons] at hpair
  rw [hfs]
  exact List.forall_mem_cons.mpr ⟨Nat.le_refl _, hpair.1⟩

theorem without_eq_of_cons {s : Simulation} {f : Flight} {rest : List Flight}
    (hfs : s.flights = f :: rest) : s.without f = { s with flights := rest } := by
  rw [without, hfs, List.erase_cons_head]

theorem course_landUntil {fs : List Flight} {s : Simulation} {t : Nat} (hfs : s.flights = fs)
    (hs : s.Orderly) (ht : s.clock ≤ t) :
    Course s (landings t fs s) (landUntil t fs s).value := by
  induction fs generalizing s with
  | nil =>
    -- nothing is in flight, so the clock may move freely
    have hstep := step_wait ht (by rw [hfs]; exact nofun)
    rw [later, hfs] at hstep
    exact Course.start.step hstep
  | cons f rest ih =>
    have hfirst := hs.endsAt_le hfs
    have hf : f ∈ s.flights := by rw [hfs]; exact List.mem_cons_self
    unfold landings landUntil
    split
    -- the first flight is due, and none is due before it
    · next hle =>
      have hwait := step_wait (hs.clock_le f hf) hfirst
      have horderly := orderly_later hs hfirst
      have hland := step_land (s := s.later f.endsAt) hf f.poll_endsAt
      rw [without_eq_of_cons (s := s.later f.endsAt) hfs] at hland
      have horderly' := orderly_step hland horderly
      refine Course.cons hwait (Course.cons hland (ih flights_land horderly' ?_))
      rw [clock_land]
      exact hle
    -- no flight is due yet
    · next hlt =>
      have hflights : ∀ g ∈ s.flights, t ≤ g.endsAt := fun g hg =>
        Nat.le_trans (Nat.le_of_lt (Nat.lt_of_not_le hlt)) (hfirst g hg)
      have hstep := step_wait ht hflights
      rw [later, hfs] at hstep
      exact Course.start.step hstep

theorem course_advanceTo {s : Simulation} {t : Nat} (hs : s.Orderly) (ht : s.clock ≤ t) :
    Course s (landings t s.flights s) (s.advanceTo t).value :=
  course_landUntil rfl hs ht

theorem inFlight?_mem {s : Simulation} {label : String} {f : Flight}
    (h : s.inFlight? label = some f) : f ∈ s.flights := List.mem_of_find?_eq_some h

theorem course_historyOf {s : Simulation} (hs : s.Orderly) (a : Action) :
    Course s (s.historyOf a) (s.perform a).value := by
  cases a with
  | start label e =>
    have hstep := Step.depart s (some label) e
    exact Course.cons hstep (course_advanceTo (orderly_step hstep hs) (Nat.le_refl _))
  | send e =>
    have hstep := Step.depart s none e
    exact Course.cons hstep
      (course_advanceTo (orderly_step hstep hs) (clock_le_endsAt_newFlight s none e))
  | join label =>
    cases hf : s.inFlight? label with
    | none =>
      simp only [historyOf, perform, join, hf]
      exact Course.start
    | some f =>
      simp only [historyOf, perform, join, hf]
      exact course_advanceTo hs (hs.clock_le f (inFlight?_mem hf))
  | cancel label =>
    cases hf : s.inFlight? label with
    | none =>
      simp only [historyOf, perform, cancel, hf]
      exact Course.start
    | some f =>
      simp only [historyOf, perform, cancel, hf]
      exact Course.start.step (Step.drop (inFlight?_mem hf))
  | advance ms => exact course_advanceTo hs (Nat.le_add_right _ _)
  | change e c => exact Course.start.step (Step.change s e c)

/-- **Every run is a course.**  The history of a list of actions leads from a state whose
flights are in order to the state that the actions give. -/
theorem course_history {s : Simulation} (hs : s.Orderly) (as : List Action) :
    Course s (s.history as) (s.run as).value := by
  induction as generalizing s with
  | nil => exact Course.start
  | cons a rest ih =>
    have ha := course_historyOf hs a
    exact ha.trans (ih (orderly_course ha hs))

end Simulation
end PartitionRouting
