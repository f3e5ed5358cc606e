import Mathlib.Algebra.GroupWithZero.Nat
import PartitionRouting.Counters

/-!
# The counters of one instance

Every counter of an instance counts one measure, and a measure bumps its own counter and no
other.  Times are not counted but added up.  So the counters after a series of measures can
be read off the series, in whatever order it was counted.

## Main definitions

* `Measure.nanos` — what a measure adds to the total time.
* `Tally.addAll` — the counters after a series of measures.
* `Tally.count` — the counters of an instance, by what they count.

## Main results

* `Tally.count_addAll`, `Tally.nanos_waitingTime_addAll` — the counters and the total time
  after a series of measures.
* `Tally.ext_count` — the counts and the total time are all that there is.
-/

namespace PartitionRouting

namespace Measure

/-- The time that is added to the time of all requests. -/
def nanos : Measure → Nat
  | waited d => d.nanos
  | _ => 0

@[simp] theorem nanos_waited (d : Duration) : (waited d).nanos = d.nanos := rfl

@[simp] theorem nanos_movedTo (state : HealthState) : (movedTo state).nanos = 0 := rfl

end Measure

namespace Tally

/-- The counters after a series of measures. -/
def addAll (t : Tally) (ms : List Measure) : Tally := ms.foldl add t

/-- Only a time can be too much to be added. -/
theorem accepts_of_forall_ne_waited {m : Measure} (h : ∀ d, m ≠ .waited d) (t : Tally) :
    t.accepts m := by
  cases m with
  | waited d => exact absurd rfl (h d)
  | _ => rfl

/-- How often a measure was counted; times are not counted but added up. -/
def count (t : Tally) : Measure → Nat
  | .request => t.requests
  | .waited _ => 0
  | .outcome .healthy => t.healthy
  | .outcome .quotaExceeded => t.quotaExceeded
  | .outcome .internalServerError => t.internalServerError
  | .outcome .serviceUnavailable => t.serviceUnavailable
  | .outcome .otherError => t.otherError
  | .leaked => t.leaked
  | .routed => t.routed
  | .movedTo .unhealthy => t.toUnhealthy
  | .movedTo .healthy => t.toHealthy

theorem count_empty (m : Measure) : ({} : Tally).count m = 0 := by
  cases m with
  | outcome o => cases o <;> rfl
  | movedTo state => cases state <;> rfl
  | _ => rfl

/-- One measure more counts for itself alone. -/
theorem count_add (t : Tally) (m : Measure) {x : Measure} (hx : ∀ d, x ≠ .waited d) :
    (t.add m).count x = t.count x + if m = x then 1 else 0 := by
  -- each counter against each measure: the measure bumps its own counter or another one
  rcases m with _ | d | (_ | _ | _ | _ | _) | _ | _ | (_ | _) <;>
    rcases x with _ | d' | (_ | _ | _ | _ | _) | _ | _ | (_ | _) <;>
    first | exact absurd rfl (hx _) | simp [add, addOutcome, count]

theorem count_addAll (t : Tally) (ms : List Measure) {x : Measure} (hx : ∀ d, x ≠ .waited d) :
    (t.addAll ms).count x = t.count x + ms.countP (· = x) := by
  induction ms generalizing t with
  | nil => rfl
  | cons m rest ih =>
    have hrest := ih (t.add m)
    rw [addAll, List.foldl_cons, ← addAll, hrest, count_add t m hx, List.countP_cons]
    simp only [decide_eq_true_eq]
    omega

theorem nanos_waitingTime_add (t : Tally) (m : Measure) :
    (t.add m).waitingTime.nanos = t.waitingTime.nanos + m.nanos := by
  cases m with
  | waited d => simp only [add, Duration.nanos_add, Measure.nanos]
  | outcome o => cases o <;> rfl
  | movedTo state => cases state <;> rfl
  | _ => rfl

theorem nanos_waitingTime_addAll (t : Tally) (ms : List Measure) :
    (t.addAll ms).waitingTime.nanos = t.waitingTime.nanos + (ms.map Measure.nanos).sum := by
  induction ms generalizing t with
  | nil => rfl
  | cons m rest ih =>
    have hrest := ih (t.add m)
    rw [addAll, List.foldl_cons, ← addAll, hrest, nanos_waitingTime_add, List.map_cons,
      List.sum_cons]
    omega

/-- Counters that count alike and add up to the same time are the same. -/
theorem ext_count {t t' : Tally} (hcount : ∀ m, (∀ d, m ≠ .waited d) → t.count m = t'.count m)
    (hwaited : t.waitingTime = t'.waitingTime) : t = t' := by
  have hrequests : t.requests = t'.requests := hcount .request (by simp)
  have hhealthy : t.healthy = t'.healthy := hcount (.outcome .healthy) (by simp)
  have hquota : t.quotaExceeded = t'.quotaExceeded := hcount (.outcome .quotaExceeded) (by simp)
  have hinternal : t.internalServerError = t'.internalServerError :=
    hcount (.outcome .internalServerError) (by simp)
  have hunavailable : t.serviceUnavailable = t'.serviceUnavailable :=
    hcount (.outcome .serviceUnavailable) (by simp)
  have hother : t.otherError = t'.otherError := hcount (.outcome .otherError) (by simp)
  have hleaked : t.leaked = t'.leaked := hcount .leaked (by simp)
  have hrouted : t.routed = t'.routed := hcount .routed (by simp)
  have hdown : t.toUnhealthy = t'.toUnhealthy := hcount (.movedTo .unhealthy) (by simp)
  have hup : t.toHealthy = t'.toHealthy := hcount (.movedTo .healthy) (by simp)
  cases t
  cases t'
  simp_all

end Tally
end PartitionRouting
