import PartitionRouting.Health.Outcome

/-!
# The health record of an instance

An instance that was contacted has a record: how many requests to it are in
flight, and what it is judged to be.  It becomes unhealthy when too many requests
in a row fail and healthy again with the first success.  While it is unhealthy
nothing is routed to it until some time has passed since its last failure; then
one request is admitted as its probe, and until the probe has ended the instance
is unavailable again.

Times are readings of a clock in milliseconds.

## Main definitions

* `Verdict` — whether an ended request speaks for or against the instance.
* `HealthRecord` — the record.
* `HealthRecord.isAvailable`, `admitsProbe` — whether requests may be routed to the
  instance, and whether the next one is its probe; `isAvailable_of_unhealthy` and
  `admitsProbe_iff` say when.
* `HealthRecord.acquire`, `release`, `judge` — the changes when a request starts, when
  it ends in any way, and when its verdict is known.
-/

namespace PartitionRouting

/-- What an ended request says about the instance it was sent to. -/
inductive Verdict
  /-- The instance answered normally. -/
  | success
  /-- The instance failed. -/
  | failure
  /-- Nothing. -/
  | neutral
  deriving DecidableEq, Repr

/-- What an answer says about the instance. -/
def Outcome.verdict (o : Outcome) : Verdict :=
  if o.isFailure then .failure
  else if o = .healthy then .success
  else .neutral

/-- What is known of an instance that was contacted. -/
structure HealthRecord where
  /-- The number of requests in flight. -/
  pending : Nat := 0
  /-- What the instance is judged to be. -/
  state : HealthState := .healthy
  /-- The number of failures since the last success. -/
  failures : Nat := 0
  /-- When the last failure was noted. -/
  lastFailure : Option Nat := none
  /-- Whether a request in flight was admitted as a probe. -/
  probing : Bool := false
  deriving DecidableEq, Repr, Inhabited

namespace HealthRecord

/-- Whether at least `retryAfter` has passed at time `now` since the last failure. -/
def retryWindowOpen (r : HealthRecord) (retryAfter now : Nat) : Bool :=
  match r.lastFailure with
  | none => true
  | some failedAt => retryAfter ≤ now - failedAt

theorem retryWindowOpen_iff {r : HealthRecord} {t retryAfter now : Nat}
    (hfailed : r.lastFailure = some t) (ht : t ≤ now) :
    r.retryWindowOpen retryAfter now ↔ t + retryAfter ≤ now := by
  rw [retryWindowOpen, hfailed, decide_eq_true_eq]
  omega

/-- Whether requests may be routed to the instance at time `now`. -/
def isAvailable (r : HealthRecord) (retryAfter now : Nat) : Bool :=
  match r.state with
  | .healthy => true
  | .unhealthy => !r.probing && r.retryWindowOpen retryAfter now

theorem isAvailable_of_healthy {r : HealthRecord} (hr : r.state = .healthy)
    (retryAfter now : Nat) : r.isAvailable retryAfter now := by
  rw [isAvailable, hr]

theorem isAvailable_of_unhealthy {r : HealthRecord} (hr : r.state = .unhealthy)
    (retryAfter now : Nat) :
    r.isAvailable retryAfter now ↔ r.probing = false ∧ r.retryWindowOpen retryAfter now := by
  rw [isAvailable, hr, Bool.and_eq_true, Bool.not_eq_true']

/-- Whether a request sent at time `now` is the probe of an unhealthy instance. -/
def admitsProbe (r : HealthRecord) (retryAfter now : Nat) : Bool :=
  r.state == .unhealthy && r.isAvailable retryAfter now

/-- A probe is admitted while the instance is unhealthy, its window is open and no other
probe is in flight. -/
theorem admitsProbe_iff {r : HealthRecord} {retryAfter now : Nat} :
    r.admitsProbe retryAfter now ↔
      r.state = .unhealthy ∧ r.probing = false ∧ r.retryWindowOpen retryAfter now := by
  rw [admitsProbe, Bool.and_eq_true, beq_iff_eq]
  refine and_congr_right fun hstate => ?_
  exact isAvailable_of_unhealthy hstate retryAfter now

/-- The record once a request was sent, as a probe or not. -/
def acquire (r : HealthRecord) (probe : Bool) : HealthRecord :=
  { r with pending := r.pending + 1, probing := r.probing || probe }

/-- The record once a request is no longer in flight. -/
def release (r : HealthRecord) (probe : Bool) : HealthRecord :=
  { r with pending := r.pending - 1, probing := r.probing && !probe }

/-- The record after a failure noted at time `now`. -/
def fail (r : HealthRecord) (threshold now : Nat) : HealthRecord :=
  { r with
    failures := r.failures + 1
    lastFailure := some now
    state := if threshold ≤ r.failures + 1 then .unhealthy else r.state }

/-- The record after a success. -/
def succeed (r : HealthRecord) : HealthRecord :=
  { r with failures := 0, state := .healthy }

/-- The record after a request ended at time `now` with the given verdict. -/
def judge (r : HealthRecord) (threshold now : Nat) : Verdict → HealthRecord
  | .success => r.succeed
  | .failure => r.fail threshold now
  | .neutral => r

/-- The state that `after` is in, if `r` was in another. -/
def moveTo? (r after : HealthRecord) : Option HealthState :=
  if r.state = after.state then none else some after.state

end HealthRecord
end PartitionRouting
