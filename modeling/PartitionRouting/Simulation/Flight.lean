import PartitionRouting.Counters
import PartitionRouting.Health.Record
import PartitionRouting.Simulation.Network

/-!
# Requests in flight

A request in flight is a flight.  It takes along the behaviour that its instance has when
it starts, and two timers.  How it ends is found out by polling it: the answer of the
instance wins if it is there by the time that the sender loses patience, even if the two
timers go off together.

## Main definitions

* `Flight` — a request in flight, and `Landing`, one that has ended.
* `Ending.verdict`, `measure`, `events`, `result` — what an ending means for the health
  of the instance, for its counters, for the log, and for the sender.
* `Flight.poll`, `Flight.wakeUps` — what a poll finds, and when there is one.
* `Flight.endsAt`, `Flight.ending` — when the first poll finds something, and what.
* `schedule` — adds a flight to a list ordered by end.

## Main results

* `Flight.endsAt_eq`, `Flight.ending_eq` — **the answer or the timeout, whichever is there
  first**, and the answer if both are.
* `Flight.poll_eq_none_iff` — a poll finds nothing before the end.
-/

namespace PartitionRouting

/-- What the sender of a request is given. -/
abbrev RequestResult := Except RoutingError StatusCode

namespace Ending

/-- What an ending says about the instance. -/
def verdict : Ending → Verdict
  | answered code => (Outcome.ofStatus code).verdict
  | broken _ => .failure
  | timedOut _ => .failure

/-- What an ending is counted as. -/
def measure : Ending → Measure
  | answered code => .outcome (Outcome.ofStatus code)
  | broken _ => .outcome .otherError
  | timedOut _ => .leaked

/-- What an ending of a request to `endpoint` is reported as. -/
def events (endpoint : Endpoint) : Ending → List Event
  | answered code => [.answered endpoint (Outcome.ofStatus code)]
  | broken cause => [.transportFailed endpoint cause, .answered endpoint .otherError]
  | timedOut limit => [.abandoned endpoint (Duration.ofMillis limit)]

/-- What the sender of a request to `endpoint` is given at its end. -/
def result (endpoint : Endpoint) : Ending → RequestResult
  | answered code => .ok code
  | broken cause => .error (.requestFailed endpoint cause.message)
  | timedOut limit =>
    .error (.requestFailed endpoint ("timed out after " ++ (Duration.ofMillis limit).text))

end Ending

/-! ### Flights -/

/-- A request in flight, with what it took along when it started. -/
structure Flight where
  /-- The name that its sender gave it, if the sender does not wait for it. -/
  label : Option String
  /-- The instance that it was sent to. -/
  endpoint : Endpoint
  /-- When it started. -/
  startedAt : Nat
  /-- The behaviour of its instance when it started. -/
  behaviour : Behaviour
  /-- How long its sender waits for it, in milliseconds. -/
  timeout : Nat
  /-- Whether it was admitted as the probe of an unhealthy instance. -/
  probe : Bool
  deriving DecidableEq, Repr

namespace Flight

variable {f : Flight} {now t : Nat} {x : Ending}

/-- How long a request has been in flight at time `t`. -/
def elapsed (f : Flight) (t : Nat) : Duration := Duration.ofMillis (t - f.startedAt)

/-! ### Polls

A request has two timers, one for the answer of its instance and one for the patience of its
sender.  It is polled when it starts and whenever a timer goes off.  A poll turns to the
transport first, and to the timer of the sender only if the transport has nothing yet. -/

/-- When the timer of the answer goes off.  Timers count whole milliseconds. -/
def answersAt (f : Flight) : Nat := f.startedAt + f.behaviour.latency.ceilMillis

/-- When the timer of the sender goes off. -/
def expiresAt (f : Flight) : Nat := f.startedAt + f.timeout

/-- What the transport has at time `t`. -/
def answer? (f : Flight) (t : Nat) : Option Ending :=
  if f.answersAt ≤ t then some (f.behaviour.answer f.endpoint) else none

/-- What the timer of the sender has at time `t`. -/
def expiry? (f : Flight) (t : Nat) : Option Ending :=
  if f.expiresAt ≤ t then some (.timedOut f.timeout) else none

/-- **What a poll at time `t` finds.** -/
def poll (f : Flight) (t : Nat) : Option Ending := (f.answer? t).or (f.expiry? t)

/-- Whether a poll at time `t` finds something. -/
def isOver (f : Flight) (t : Nat) : Bool := (f.poll t).isSome

/-- When the timers go off, the earlier one first. -/
def timers (f : Flight) : List Nat :=
  [min f.answersAt f.expiresAt, max f.answersAt f.expiresAt]

/-- When a request is polled. -/
def wakeUps (f : Flight) : List Nat := f.startedAt :: f.timers

/-- Whether a request may be left alone from time `now` until time `t`: a poll finds nothing
now, and no timer goes off on the way. -/
def Sleeps (f : Flight) (now t : Nat) : Prop :=
  f.poll now = none ∧ ∀ w ∈ f.timers, now < w → t ≤ w

/-- A poll finds nothing until a timer has gone off. -/
theorem poll_eq_none_iff_of_timers : f.poll t = none ↔ t < f.answersAt ∧ t < f.expiresAt := by
  rw [poll, Option.or_eq_none_iff, answer?, expiry?, ite_eq_right_iff, ite_eq_right_iff]
  simp

theorem isOver_iff : f.isOver t ↔ min f.answersAt f.expiresAt ≤ t := by
  rw [isOver, Option.isSome_iff_ne_none, ne_eq, poll_eq_none_iff_of_timers]
  omega

theorem isSome_find?_wakeUps (f : Flight) : (f.wakeUps.find? f.isOver).isSome :=
  List.find?_isSome.mpr ⟨min f.answersAt f.expiresAt, by simp [wakeUps, timers],
    isOver_iff.mpr (Nat.le_refl _)⟩

/-! ### Ends -/

/-- When a request ends: the first time that a poll finds something. -/
def endsAt (f : Flight) : Nat := (f.wakeUps.find? f.isOver).get f.isSome_find?_wakeUps

theorem isOver_endsAt (f : Flight) : f.isOver f.endsAt :=
  List.find?_some (Option.some_get f.isSome_find?_wakeUps).symm

/-- How a request ends: what the poll at its end finds. -/
def ending (f : Flight) : Ending := (f.poll f.endsAt).get f.isOver_endsAt

/-- How long a request is in flight until its end. -/
def time (f : Flight) : Duration := f.elapsed f.endsAt

/-- What the sender is given at the end. -/
def result (f : Flight) : RequestResult := f.ending.result f.endpoint

theorem poll_endsAt (f : Flight) : f.poll f.endsAt = some f.ending :=
  (Option.some_get f.isOver_endsAt).symm

theorem startedAt_le_min (f : Flight) : f.startedAt ≤ min f.answersAt f.expiresAt :=
  Nat.le_min.mpr ⟨Nat.le_add_right .., Nat.le_add_right ..⟩

/-- A request ends when its first timer goes off. -/
theorem endsAt_eq_min (f : Flight) : f.endsAt = min f.answersAt f.expiresAt := by
  have hstart := f.startedAt_le_min
  refine Option.get_of_eq_some _ ?_
  by_cases hatonce : f.isOver f.startedAt
  -- the first poll finds something, as a timer has gone off at once
  · have hmin := isOver_iff.mp hatonce
    rw [wakeUps, List.find?_cons_of_pos hatonce, Nat.le_antisymm hstart hmin]
  -- the first poll finds nothing, and the next one is that of the first timer
  · have hfirst : f.isOver (min f.answersAt f.expiresAt) := isOver_iff.mpr (Nat.le_refl _)
    rw [wakeUps, List.find?_cons_of_neg hatonce, timers, List.find?_cons_of_pos hfirst]

/-- **A request ends after the latency of its instance or after the timeout**, whichever is
shorter. -/
theorem endsAt_eq (f : Flight) :
    f.endsAt = f.startedAt + min f.behaviour.latency.ceilMillis f.timeout := by
  rw [endsAt_eq_min, answersAt, expiresAt, Nat.add_min_add_left]

/-- **A request is abandoned if its instance takes longer than the timeout**, and answered if
it takes as long. -/
theorem ending_eq (f : Flight) :
    f.ending = if f.timeout < f.behaviour.latency.ceilMillis then .timedOut f.timeout
      else f.behaviour.answer f.endpoint := by
  have hpoll := f.poll_endsAt
  have hends := f.endsAt_eq
  rw [poll] at hpoll
  split
  · next hlate =>
    have hnothing : ¬f.answersAt ≤ f.endsAt := by
      rw [answersAt]
      omega
    have hexpired : f.expiresAt ≤ f.endsAt := by
      rw [expiresAt]
      omega
    rw [answer?, if_neg hnothing, expiry?, if_pos hexpired, Option.none_or] at hpoll
    exact (Option.some.inj hpoll).symm
  · next hintime =>
    have hanswered : f.answersAt ≤ f.endsAt := by
      rw [answersAt]
      omega
    rw [answer?, if_pos hanswered, Option.some_or] at hpoll
    exact (Option.some.inj hpoll).symm

theorem startedAt_le_endsAt (f : Flight) : f.startedAt ≤ f.endsAt :=
  f.endsAt_eq ▸ Nat.le_add_right ..

/-- A request is in flight for some time if neither the answer nor the timeout is there at once. -/
theorem startedAt_lt_endsAt (f : Flight) (hlatency : 0 < f.behaviour.latency.nanos)
    (htimeout : 0 < f.timeout) : f.startedAt < f.endsAt := by
  rw [endsAt_eq]
  exact Nat.lt_add_of_pos_right (Nat.lt_min.mpr ⟨Duration.ceilMillis_pos hlatency, htimeout⟩)

theorem endsAt_le_expiresAt (f : Flight) : f.endsAt ≤ f.expiresAt :=
  f.endsAt_eq_min ▸ Nat.min_le_right ..

/-- Nothing is found before the end, and something at any time from then on. -/
theorem poll_eq_none_iff : f.poll t = none ↔ t < f.endsAt := by
  rw [poll_eq_none_iff_of_timers, endsAt_eq_min, Nat.lt_min]

/-- Whoever asks by the end and finds something asks at the end. -/
theorem eq_of_poll (hnow : now ≤ f.endsAt) (hpoll : f.poll now = some x) :
    now = f.endsAt ∧ x = f.ending := by
  have hdue : ¬now < f.endsAt := fun hearly => by
    rw [poll_eq_none_iff.mpr hearly] at hpoll
    contradiction
  obtain rfl : now = f.endsAt := Nat.le_antisymm hnow (Nat.le_of_not_lt hdue)
  rw [poll_endsAt] at hpoll
  exact ⟨rfl, (Option.some.inj hpoll).symm⟩

/-- A request may be left alone until its end. -/
theorem sleeps_iff : f.Sleeps now t ↔ now < f.endsAt ∧ t ≤ f.endsAt := by
  rw [Sleeps, poll_eq_none_iff, timers, endsAt_eq_min]
  simp only [List.mem_cons, List.not_mem_nil, or_false, forall_eq_or_imp, forall_eq]
  omega

end Flight

/-- A request that has ended. -/
structure Landing where
  /-- The request. -/
  flight : Flight
  /-- When it ended. -/
  endedAt : Nat
  /-- How it ended. -/
  ending : Ending
  deriving DecidableEq, Repr

/-- What the sender is given. -/
def Landing.result (l : Landing) : RequestResult := l.ending.result l.flight.endpoint

/-! ### Lists of flights -/

/-- Adds a flight to a list ordered by end, after those that end at the same time. -/
def schedule (f : Flight) : List Flight → List Flight
  | [] => [f]
  | g :: rest => if g.endsAt ≤ f.endsAt then g :: schedule f rest else f :: g :: rest

theorem perm_schedule (f : Flight) (l : List Flight) : (schedule f l).Perm (f :: l) := by
  induction l with
  | nil => exact List.Perm.refl _
  | cons g rest ih =>
    unfold schedule
    split
    · exact (ih.cons g).trans (List.Perm.swap f g rest)
    · exact List.Perm.refl _

/-- A list ordered by end stays so. -/
theorem pairwise_schedule {f : Flight} {l : List Flight}
    (h : l.Pairwise (·.endsAt ≤ ·.endsAt)) :
    (schedule f l).Pairwise (·.endsAt ≤ ·.endsAt) := by
  induction l with
  | nil => simp [schedule]
  | cons g rest ih =>
    obtain ⟨hg, hrest⟩ := List.pairwise_cons.mp h
    unfold schedule
    split
    · next hle =>
      refine List.pairwise_cons.mpr ⟨fun x hx => ?_, ih hrest⟩
      rcases List.mem_cons.mp ((perm_schedule f rest).mem_iff.mp hx) with rfl | hx
      · exact hle
      · exact hg x hx
    · next hlt =>
      refine List.pairwise_cons.mpr ⟨fun x hx => ?_, h⟩
      rcases List.mem_cons.mp hx with rfl | hx
      · omega
      · have := hg x hx
        omega

end PartitionRouting
