import PartitionRouting.Proofs.Counters.Tally

/-!
# Counters hold what was recorded

Counters are a fold over what was recorded.  A recording concerns one instance, and of that
instance one counter or the total time, so after any sequence of recordings each counter is
the number of recordings of its measure, wherever in the sequence they stand.  Only the total
time has a bound.  A time with which it would pass the bound is left out, and this is all
that happens to the counters: they go on to count as before, but every use of them is
reported from then on.

## Main definitions

* `Duration.total`, `Duration.kept` — a sum of durations, and those of a sequence that can be
  added up within the limit.
* `Counters.addAll` — the counters after a sequence of recordings.
* `Counters.Access`, `Counters.accessAll` — a use of the counters as a value, and the counters
  after a sequence of uses.
* `Counters.Holds` — the counters hold what was recorded, as they can be read.
* `Counters.Withstands` — all that a refused time does to the counters.

## Main results

* `Counters.count_tally_addAll`, `nanos_waitingTime_addAll` — the counters after a sequence of
  recordings.
* `Counters.damaged_addAll_iff` — the counters are damaged if a recording was refused.
* `Counters.addAll_perm` — if none was refused, the order of the recordings does not matter.
* `Counters.counted_exactly` — **counters hold exactly what was recorded, and a time that is
  too much does no further harm.**
-/

namespace PartitionRouting

open Std

/-! ### Times -/

namespace Duration

theorem fits_iff {d : Duration} : d.fits ↔ d.nanos ≤ limit.nanos := decide_eq_true_iff

/-- The sum of durations. -/
def total (ds : List Duration) : Duration := ⟨(ds.map nanos).sum⟩

/-- **Those of a sequence of durations that can be added up**, one after another, to a sum
that is `t` at first: one with which the sum would pass the limit is left out. -/
def kept (t : Duration) : List Duration → List Duration
  | [] => []
  | d :: ds => if (t + d).fits then d :: kept (t + d) ds else kept t ds

theorem nanos_total_append (ds es : List Duration) :
    (total (ds ++ es)).nanos = (total ds).nanos + (total es).nanos := by
  simp [total]

theorem total_perm {ds es : List Duration} (h : ds.Perm es) : total ds = total es :=
  congrArg mk (h.map nanos).sum_nat

variable {t : Duration}

theorem fits_add_total_kept (ht : t.fits) (ds : List Duration) : (t + total (kept t ds)).fits := by
  induction ds generalizing t with
  | nil => exact ht
  | cons d ds ih =>
    rw [kept]
    split
    · next hd =>
      have hrest := fits_iff.mp (ih hd)
      refine fits_iff.mpr ?_
      simp only [total, nanos_add, List.map_cons, List.sum_cons] at hrest ⊢
      omega
    · exact ih ht

theorem length_kept_le (t : Duration) (ds : List Duration) : (kept t ds).length ≤ ds.length := by
  induction ds generalizing t with
  | nil => exact Nat.le_refl _
  | cons d ds ih =>
    rw [kept, List.length_cons]
    split
    · exact Nat.succ_le_succ (ih (t + d))
    · exact Nat.le_succ_of_le (ih t)

/-- None is left out exactly if all of them together can be added. -/
theorem kept_eq_self_iff (ht : t.fits) (ds : List Duration) :
    kept t ds = ds ↔ (t + total ds).fits := by
  induction ds generalizing t with
  | nil => exact iff_of_true rfl ht
  | cons d ds ih =>
    have hsum : t + total (d :: ds) = t + d + total ds := by
      refine congrArg mk ?_
      simp only [total, nanos_add, List.map_cons, List.sum_cons]
      omega
    rw [kept, hsum]
    split
    · next hd => rw [List.cons.injEq, and_iff_right rfl, ih hd]
    · next hd =>
      -- the first is left out, and a longer sum does not fit either
      refine iff_of_false (fun heq => ?_) (fun hfits => hd (fits_iff.mpr ?_))
      · have hlength := length_kept_le t ds
        rw [heq, List.length_cons] at hlength
        omega
      · have hle := fits_iff.mp hfits
        rw [nanos_add] at hle
        omega

end Duration

/-- The time that a recording adds to that of `e`. -/
def Recording.time? (e : Endpoint) : Recording → Option Duration
  | measure a (.waited d) => if a = e then some d else none
  | _ => none

theorem Recording.time?_eq_some_iff {r : Recording} {e : Endpoint} {d : Duration} :
    r.time? e = some d ↔ r = .measure e (.waited d) := by
  cases r with
  | noReplica => simp [time?]
  | measure a m => cases m <;> simp [time?]

/-- The times that a sequence of recordings adds to that of `e`, in order. -/
def Recording.times (rs : List Recording) (e : Endpoint) : List Duration :=
  rs.filterMap (time? e)

theorem Recording.times_cons (r : Recording) (rs : List Recording) (e : Endpoint) :
    times (r :: rs) e = (r.time? e).toList ++ times rs e := by
  rw [times, List.filterMap_cons]
  cases r.time? e <;> rfl

namespace Counters

/-! ### One recording -/

variable {c : Counters} {r : Recording} {rs rs' : List Recording} {e : Endpoint} {m : Measure}

/-- Only a time with which the total would pass the limit is refused. -/
theorem accepts_eq_false_iff :
    c.accepts r = false ↔ ∃ e d, r = .measure e (.waited d) ∧
      Duration.limit.nanos < ((c.tally e).waitingTime + d).nanos := by
  constructor
  · intro h
    cases r with
    | noReplica => contradiction
    | measure a m =>
      cases m with
      | waited d => exact ⟨a, d, rfl, Nat.lt_of_not_le (of_decide_eq_false h)⟩
      | _ => contradiction
  · rintro ⟨a, d, rfl, hlimit⟩
    exact decide_eq_false (Nat.not_le_of_lt hlimit)

theorem damaged_add (c : Counters) (r : Recording) :
    (c.add r).damaged = (c.damaged || !c.accepts r) := by
  cases r with
  | measure a m => rfl
  | noReplica => exact (Bool.or_false _).symm

theorem withoutReplica_add (c : Counters) (r : Recording) :
    (c.add r).withoutReplica = c.withoutReplica + if r == .noReplica then 1 else 0 := by
  cases r with
  | measure a m => rfl
  | noReplica => rfl

theorem mem_tallies_add : e ∈ (c.add r).tallies ↔ e ∈ c.tallies ∨ ∃ m, r = .measure e m := by
  cases r with
  | noReplica => simp [add]
  | measure a m =>
    rw [add, ExtTreeMap.mem_insert, Std.compare_eq_iff_eq]
    simp only [Recording.measure.injEq, exists_and_left, exists_eq', and_true]
    exact or_comm

/-- A recording bumps the counter of its measure. -/
theorem count_tally_add (c : Counters) (r : Recording) (e : Endpoint) (hm : ∀ d, m ≠ .waited d) :
    ((c.add r).tally e).count m =
      (c.tally e).count m + if r == .measure e m then 1 else 0 := by
  cases r with
  | noReplica => rfl
  | measure a x =>
    rw [tally_add_measure]
    by_cases ha : e = a
    · subst ha
      by_cases hx : (c.tally e).accepts x = true
      · rw [if_pos ⟨rfl, hx⟩, Tally.count_add _ _ hm]
        simp
      · -- what is refused is a time, which no counter counts
        have hne : x ≠ m := fun h => hx (h ▸ Tally.accepts_of_forall_ne_waited hm _)
        rw [if_neg fun h => hx h.2]
        simp [hne]
    · have hne : a ≠ e := Ne.symm ha
      rw [if_neg fun h => ha h.1]
      simp [hne]

/-- A recording adds its time, unless that is too much. -/
theorem nanos_waitingTime_add (c : Counters) (r : Recording) (e : Endpoint) :
    ((c.add r).tally e).waitingTime.nanos = (c.tally e).waitingTime.nanos +
      (Duration.total (if c.accepts r then (r.time? e).toList else [])).nanos := by
  cases r with
  | noReplica => rfl
  | measure a x =>
    rw [tally_add_measure, accepts]
    by_cases ha : e = a
    · subst ha
      by_cases hx : (c.tally e).accepts x = true
      · rw [if_pos ⟨rfl, hx⟩, if_pos hx, Tally.nanos_waitingTime_add]
        cases x <;> simp [Recording.time?, Duration.total, Measure.nanos]
      · rw [if_neg fun h => hx h.2, if_neg hx]
        rfl
    · have hnone : (Recording.measure a x).time? e = none := by
        have hne : a ≠ e := Ne.symm ha
        cases x <;> simp [Recording.time?, hne]
      rw [if_neg fun h => ha h.1, hnone]
      simp [Duration.total]

/-- A time that is refused is left out, and the others are kept as if it had not come. -/
theorem kept_times_cons (c : Counters) (r : Recording) (rs : List Recording) (e : Endpoint) :
    Duration.kept (c.tally e).waitingTime (Recording.times (r :: rs) e) =
      (if c.accepts r then (r.time? e).toList else []) ++
        Duration.kept ((c.add r).tally e).waitingTime (Recording.times rs e) := by
  have hadd := c.nanos_waitingTime_add r e
  rw [Recording.times_cons]
  cases htime : r.time? e with
  | none =>
    have hsame : ((c.add r).tally e).waitingTime = (c.tally e).waitingTime := by
      refine congrArg Duration.mk (hadd.trans ?_)
      simp [htime, Duration.total]
    simp [hsame]
  | some d =>
    -- a time is kept if it still fits, and otherwise the total stays as it is
    obtain rfl := Recording.time?_eq_some_iff.mp htime
    have haccepts : c.accepts (.measure e (.waited d)) = ((c.tally e).waitingTime + d).fits := rfl
    rw [htime] at hadd
    rw [Option.toList_some, List.singleton_append, Duration.kept, ← haccepts]
    split
    · next h =>
      rw [if_pos h] at hadd
      have hsum : ((c.add (.measure e (.waited d))).tally e).waitingTime =
          (c.tally e).waitingTime + d := congrArg Duration.mk hadd
      rw [hsum, List.singleton_append]
    · next h =>
      rw [if_neg h] at hadd
      have hsame : ((c.add (.measure e (.waited d))).tally e).waitingTime =
          (c.tally e).waitingTime := congrArg Duration.mk hadd
      rw [hsame, List.nil_append]

/-! ### A sequence of recordings -/

/-- The counters after a sequence of recordings. -/
def addAll (c : Counters) (rs : List Recording) : Counters := rs.foldl add c

theorem addAll_cons (c : Counters) (r : Recording) (rs : List Recording) :
    c.addAll (r :: rs) = (c.add r).addAll rs := rfl

/-- **Each counter counts the recordings of its measure.** -/
theorem count_tally_addAll (c : Counters) (rs : List Recording) (e : Endpoint)
    (hm : ∀ d, m ≠ .waited d) :
    ((c.addAll rs).tally e).count m = (c.tally e).count m + rs.count (.measure e m) := by
  induction rs generalizing c with
  | nil => rfl
  | cons r rest ih =>
    rw [addAll_cons, ih, count_tally_add c r e hm, List.count_cons]
    omega

theorem withoutReplica_addAll (c : Counters) (rs : List Recording) :
    (c.addAll rs).withoutReplica = c.withoutReplica + rs.count .noReplica := by
  induction rs generalizing c with
  | nil => rfl
  | cons r rest ih =>
    rw [addAll_cons, ih, withoutReplica_add, List.count_cons]
    omega

theorem mem_tallies_addAll :
    e ∈ (c.addAll rs).tallies ↔ e ∈ c.tallies ∨ ∃ m, .measure e m ∈ rs := by
  induction rs generalizing c with
  | nil => simp [addAll]
  | cons r rest ih =>
    rw [addAll_cons, ih, mem_tallies_add]
    simp only [List.mem_cons, exists_or, or_assoc, eq_comm]

/-- **The total time is the exact sum of the times that are kept.** -/
theorem nanos_waitingTime_addAll (c : Counters) (rs : List Recording) (e : Endpoint) :
    ((c.addAll rs).tally e).waitingTime.nanos = (c.tally e).waitingTime.nanos +
      (Duration.total (Duration.kept (c.tally e).waitingTime (Recording.times rs e))).nanos := by
  induction rs generalizing c with
  | nil => rfl
  | cons r rest ih =>
    rw [addAll_cons, ih, kept_times_cons, Duration.nanos_total_append, nanos_waitingTime_add]
    omega

/-- **The counters are damaged if a recording was refused.** -/
theorem damaged_addAll_iff :
    (c.addAll rs).damaged ↔ c.damaged ∨
      ∃ before r after, rs = before ++ r :: after ∧ (c.addAll before).accepts r = false := by
  induction rs generalizing c with
  | nil => simp [addAll]
  | cons r rest ih =>
    rw [addAll_cons, ih, damaged_add, Bool.or_eq_true, Bool.not_eq_true', or_assoc]
    refine or_congr_right ⟨?_, ?_⟩
    · rintro (hr | ⟨before, x, after, rfl, hx⟩)
      · exact ⟨[], r, rest, rfl, hr⟩
      · exact ⟨r :: before, x, after, rfl, hx⟩
    · rintro ⟨before, x, after, heq, hx⟩
      -- the recording that was refused is the first one or a later one
      cases before with
      | nil =>
        obtain ⟨rfl, -⟩ := List.cons.inj heq
        exact Or.inl hx
      | cons y before =>
        obtain ⟨rfl, hrest⟩ := List.cons.inj heq
        exact Or.inr ⟨before, x, after, hrest, hx⟩

theorem damaged_addAll_eq_false_iff_kept :
    (c.addAll rs).damaged = false ↔ c.damaged = false ∧
      ∀ e, Duration.kept (c.tally e).waitingTime (Recording.times rs e) =
        Recording.times rs e := by
  induction rs generalizing c with
  | nil => simp [addAll, Recording.times, Duration.kept]
  | cons r rest ih =>
    rw [addAll_cons, ih, damaged_add, Bool.or_eq_false_iff, Bool.not_eq_false', and_assoc]
    refine and_congr_right fun _ => ?_
    have hhead : ∀ e, Duration.kept (c.tally e).waitingTime (Recording.times (r :: rest) e) =
        Recording.times (r :: rest) e ↔
        (if c.accepts r then (r.time? e).toList else []) ++
          Duration.kept ((c.add r).tally e).waitingTime (Recording.times rest e) =
        (r.time? e).toList ++ Recording.times rest e := fun e => by
      rw [kept_times_cons, Recording.times_cons]
    simp only [hhead]
    cases haccepts : c.accepts r with
    | true => simp
    | false =>
      -- the time that was refused is missing from those of its instance
      obtain ⟨e, d, rfl, -⟩ := accepts_eq_false_iff.mp haccepts
      refine iff_of_false (fun h => Bool.false_ne_true h.1) fun h => ?_
      have hlength := Duration.length_kept_le
        ((c.add (.measure e (.waited d))).tally e).waitingTime (Recording.times rest e)
      have htime : (Recording.measure e (.waited d)).time? e = some d :=
        Recording.time?_eq_some_iff.mpr rfl
      have he := congrArg List.length (h e)
      rw [htime] at he
      simp at he
      omega

/-- **No recording is refused as long as all times can be kept.** -/
theorem damaged_addAll_eq_false_iff (hc : ∀ e, (c.tally e).waitingTime.fits) :
    (c.addAll rs).damaged = false ↔ c.damaged = false ∧
      ∀ e, ((c.tally e).waitingTime + Duration.total (Recording.times rs e)).fits := by
  rw [damaged_addAll_eq_false_iff_kept]
  exact and_congr_right fun _ => forall_congr' fun e => Duration.kept_eq_self_iff (hc e) _

theorem ext_parts {c c' : Counters} (htallies : c.tallies = c'.tallies)
    (hwithout : c.withoutReplica = c'.withoutReplica) (hdamaged : c.damaged = c'.damaged) :
    c = c' := by
  cases c
  cases c'
  simp_all

theorem getElem?_tallies (c : Counters) (e : Endpoint) :
    c.tallies[e]? = if e ∈ c.tallies then some (c.tally e) else none := by
  rw [tally]
  by_cases h : e ∈ c.tallies
  · rw [if_pos h, ExtTreeMap.getElem?_eq_some_getElem h]
    rfl
  · rw [if_neg h, ExtTreeMap.getElem?_eq_none h]

/-- **If no recording is refused, the order of the recordings does not matter.** -/
theorem addAll_perm (hc : ∀ e, (c.tally e).waitingTime.fits) (h : rs'.Perm rs)
    (hrefused : (c.addAll rs).damaged = false) : c.addAll rs' = c.addAll rs := by
  have htimes : ∀ e, Duration.total (Recording.times rs' e) =
      Duration.total (Recording.times rs e) := fun e => Duration.total_perm (h.filterMap _)
  have hrefused' : (c.addAll rs').damaged = false := by
    rw [damaged_addAll_eq_false_iff hc] at hrefused ⊢
    exact ⟨hrefused.1, fun e => htimes e ▸ hrefused.2 e⟩
  have htally : ∀ e, (c.addAll rs').tally e = (c.addAll rs).tally e := by
    intro e
    refine Tally.ext_count (fun m hm => ?_) (congrArg Duration.mk ?_)
    · rw [count_tally_addAll c rs' e hm, count_tally_addAll c rs e hm, h.count_eq]
    · -- all times are kept, in either order
      have hkept := (damaged_addAll_eq_false_iff_kept.mp hrefused).2 e
      have hkept' := (damaged_addAll_eq_false_iff_kept.mp hrefused').2 e
      rw [nanos_waitingTime_addAll, nanos_waitingTime_addAll, hkept, hkept', htimes]
  have htallies : (c.addAll rs').tallies = (c.addAll rs).tallies := by
    refine ExtTreeMap.ext_getElem? fun e => ?_
    have hmem : e ∈ (c.addAll rs').tallies ↔ e ∈ (c.addAll rs).tallies := by
      simp only [mem_tallies_addAll, h.mem_iff]
    rw [getElem?_tallies, getElem?_tallies, htally]
    simp only [hmem]
  have hwithout : (c.addAll rs').withoutReplica = (c.addAll rs).withoutReplica := by
    rw [withoutReplica_addAll, withoutReplica_addAll, h.count_eq]
  exact ext_parts htallies hwithout (hrefused'.trans hrefused.symm)

/-! ### Uses of the counters -/

/-- A use of the counters. -/
inductive Access
  /-- Something is recorded. -/
  | record (r : Recording)
  /-- The counters of an instance are read. -/
  | read (endpoint : Endpoint)
  /-- The counters of all instances are read. -/
  | readAll
  /-- The number of requests without replica is read. -/
  | readWithoutReplica

/-- The recording that a use is. -/
def Access.recording? : Access → Option Recording
  | record r => some r
  | _ => none

/-- The counters after a use; whatever is read, they stay as they are. -/
def access (c : Counters) : Access → Logged Counters
  | .record r => c.record r
  | .read e => (fun _ => c) <$> c.read e
  | .readAll => (fun _ => c) <$> c.readAll
  | .readWithoutReplica => (fun _ => c) <$> c.readWithoutReplica

/-- The counters after a sequence of uses. -/
def accessAll (c : Counters) (as : List Access) : Logged Counters := as.foldlM access c

theorem value_access (c : Counters) (a : Access) :
    (c.access a).value = c.addAll a.recording?.toList := by
  cases a <;> rfl

theorem value_accessAll (c : Counters) (as : List Access) :
    (c.accessAll as).value = c.addAll (as.filterMap Access.recording?) := by
  induction as generalizing c with
  | nil => rfl
  | cons a rest ih =>
    have hrecordings : (a :: rest).filterMap Access.recording? =
        a.recording?.toList ++ rest.filterMap Access.recording? := by
      rw [List.filterMap_cons]
      cases a.recording? <;> rfl
    rw [hrecordings, addAll, List.foldl_append, ← addAll, ← addAll, ← value_access, ← ih]
    rfl

/-- **A use is reported exactly if the counters are damaged**, by one warning. -/
theorem events_access (c : Counters) (a : Access) :
    (c.access a).events = if c.damaged then [.countersDamaged] else [] := by
  have htouch : c.touch.events = if c.damaged then [.countersDamaged] else [] := by
    rw [touch]
    split <;> rfl
  cases a <;> simp [access, record, read, readAll, readWithoutReplica, htouch]

/-- **Counters that hold what was recorded**, as they can be read. -/
structure Holds (c : Counters) (rs : List Recording) : Prop where
  /-- Each counter of an instance is the number of recordings of its measure. -/
  count : ∀ e m, (∀ d, m ≠ .waited d) → (c.read e).value.count m = rs.count (.measure e m)
  /-- The total time of an instance is the exact sum of the times that can be added up. -/
  waitingTime : ∀ e, (c.read e).value.waitingTime =
    Duration.total (Duration.kept .zero (Recording.times rs e))
  /-- It can be kept as a 64-bit number of seconds and a number of nanoseconds below one
  second. -/
  parts : ∀ e, let time := (c.read e).value.waitingTime
    time = .ofParts time.secs time.subsecNanos ∧ time.secs < UInt64.size ∧
      time.subsecNanos < Duration.nanosPerSec
  /-- The instances listed are those that something was recorded of. -/
  listed : ∀ e t, (e, t) ∈ c.readAll.value ↔ (∃ m, .measure e m ∈ rs) ∧ t = (c.read e).value
  /-- The requests without replica are those recorded. -/
  withoutReplica : c.readWithoutReplica.value = rs.count .noReplica

/-- **Counters withstand a recording of `e` that is refused**: no counter changes, but the
instance is listed and the counters are damaged. -/
structure Withstands (c : Counters) (e : Endpoint) (c' : Counters) : Prop where
  /-- The counters of every instance stay as they are. -/
  tally : ∀ a, c'.tally a = c.tally a
  /-- So does the number of requests without replica. -/
  withoutReplica : c'.withoutReplica = c.withoutReplica
  /-- The instance is listed from then on. -/
  listed : ∀ a, a ∈ c'.tallies ↔ a ∈ c.tallies ∨ a = e
  /-- The counters are damaged. -/
  damaged : c'.damaged

/-- Nothing is counted at first. -/
theorem tally_empty (e : Endpoint) : ({} : Counters).tally e = {} := by simp [tally]

theorem fits_waitingTime_empty (e : Endpoint) : (({} : Counters).tally e).waitingTime.fits := by
  rw [tally_empty]
  decide

theorem holds_addAll (rs : List Recording) : (({} : Counters).addAll rs).Holds rs := by
  have htime : ∀ e, ((({} : Counters).addAll rs).tally e).waitingTime =
      Duration.total (Duration.kept .zero (Recording.times rs e)) := by
    intro e
    have hnanos := nanos_waitingTime_addAll {} rs e
    rw [tally_empty] at hnanos
    exact congrArg Duration.mk (hnanos.trans (Nat.zero_add _))
  refine ⟨fun e m hm => ?_, htime, fun e => ⟨?_, ?_, Duration.subsecNanos_lt _⟩, fun e t => ?_, ?_⟩
  · have hcount := count_tally_addAll {} rs e hm
    rwa [tally_empty, Tally.count_empty, Nat.zero_add] at hcount
  · exact (Duration.ofParts_secs_subsecNanos _).symm
  · -- what is kept fits
    have hzero : Duration.zero.fits := by decide
    have hlimit : Duration.limit.nanos = UInt64.size * Duration.nanosPerSec - 1 := by decide
    have hfits := Duration.fits_iff.mp (Duration.fits_add_total_kept hzero (Recording.times rs e))
    have hread : ((({} : Counters).addAll rs).read e).value.waitingTime = _ := htime e
    rw [hread, Duration.secs]
    refine Nat.div_lt_of_lt_mul ?_
    rw [hlimit, Duration.nanos_add] at hfits
    have hpos : 0 < UInt64.size * Duration.nanosPerSec := by decide
    rw [Nat.mul_comm]
    omega
  · have hread : (({} : Counters).addAll rs).readAll.value = (addAll {} rs).tallies.toList := rfl
    rw [hread, ExtTreeMap.mem_toList_iff_getElem?_eq_some, getElem?_tallies,
      Option.ite_none_right_eq_some, mem_tallies_addAll, Option.some.injEq]
    simp [eq_comm, read]
  · exact (withoutReplica_addAll {} rs).trans (Nat.zero_add _)

theorem withstands_record {c : Counters} {e : Endpoint} {m : Measure}
    (h : c.accepts (.measure e m) = false) : c.Withstands e (c.record (.measure e m)).value := by
  have hm : (c.tally e).accepts m = false := h
  have hvalue : (c.record (.measure e m)).value = c.add (.measure e m) := rfl
  rw [hvalue]
  refine ⟨fun a => ?_, rfl, fun a => ?_, ?_⟩
  · rw [tally_add_measure, hm]
    simp
  · rw [mem_tallies_add]
    simp [eq_comm]
  · rw [damaged_add, h]
    simp

/-- **Counters hold exactly what was recorded**, whatever is recorded and read in whatever
order.  A recording is refused only if it is a time with which the total time of its instance
would pass the limit.  It then changes no counter, lists its instance and damages the
counters, and all that comes of the damage is a warning at each later use.  If nothing was
refused, the recordings may as well have come in any other order. -/
theorem counted_exactly (as : List Access) :
    let rs := as.filterMap Access.recording?
    let c := (({} : Counters).accessAll as).value
    c.Holds rs ∧
    (∀ r, c.accepts r = false ↔ ∃ e d, r = .measure e (.waited d) ∧
      Duration.limit.nanos < ((c.read e).value.waitingTime + d).nanos) ∧
    (∀ e m, c.accepts (.measure e m) = false →
      c.Withstands e (c.record (.measure e m)).value) ∧
    (c.damaged ↔ ∃ before r after, rs = before ++ r :: after ∧
      (({} : Counters).addAll before).accepts r = false) ∧
    (∀ a : Access, (c.access a).events = if c.damaged then [.countersDamaged] else []) ∧
    Event.countersDamaged.level = .warn ∧
    (c.damaged = false → ∀ as' : List Access, (as'.filterMap Access.recording?).Perm rs →
      (({} : Counters).accessAll as').value = c) := by
  intro rs c
  have hc : c = ({} : Counters).addAll rs := value_accessAll {} as
  refine ⟨?_, fun r => accepts_eq_false_iff, fun e m => withstands_record, ?_, c.events_access,
    rfl, ?_⟩
  · rw [hc]
    exact holds_addAll rs
  · rw [hc, damaged_addAll_iff]
    simp
  · intro hrefused as' hperm
    rw [value_accessAll, hc]
    exact addAll_perm fits_waitingTime_empty hperm (hc ▸ hrefused)

/-- After the longest time that can be kept another nanosecond is refused, and what is recorded
then counts. -/
theorem counted_exactly_of_overflow :
    let late : Recording := .measure "a" (.waited ⟨1⟩)
    let as : List Access := [.record (.measure "a" (.waited .limit)), .read "b", .record late,
      .record (.measure "a" .request)]
    let c := (({} : Counters).accessAll as).value
    (c.read "a").value.waitingTime = .limit ∧ (c.read "a").value.count .request = 1 ∧
      c.accepts late = false ∧ c.Withstands "a" (c.record late).value ∧
      (c.access (.read "b")).events = [.countersDamaged] := by
  intro late as c
  obtain ⟨hholds, -, hwithstands, hdamaged, hevents, -, -⟩ := counted_exactly as
  have hlate : c.accepts late = false := by decide +kernel
  have hwarned : c.damaged = true :=
    hdamaged.mpr ⟨[.measure "a" (.waited .limit)], late, [.measure "a" .request], rfl,
      by decide +kernel⟩
  refine ⟨(hholds.waitingTime "a").trans (by decide +kernel),
    (hholds.count "a" .request (by simp)).trans (by decide +kernel), hlate,
    hwithstands "a" (.waited ⟨1⟩) hlate, ?_⟩
  rw [hevents, if_pos hwarned]

end Counters
end PartitionRouting
