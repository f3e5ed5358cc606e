import PartitionRouting.Logged
import PartitionRouting.Lookup

/-!
# Counters

For every instance the counters say how many requests were sent to it, how they
ended, how often it was picked and how often its judgement changed, and how long
its answers took in total.  Counts have no bound; the total time must fit in a
duration that can be kept, so an addition beyond that is refused.  A refusal
changes no counter but damages the counters: from then on every use of them is
reported.

## Main definitions

* `Measure`, `Tally` — what is counted of one instance, and its counters.
* `Recording` — what is counted: a measure of an instance, or a request without replica.
* `Counters`, `Counters.record`, `Counters.accepts` — all counters and their changes.
* `Sink` — counters that are kept, or recordings that are dropped.
-/

namespace PartitionRouting

open Std

/-- What is counted of one instance. -/
inductive Measure
  /-- A request was sent. -/
  | request
  /-- An ended request took this long. -/
  | waited (time : Duration)
  /-- A request ended with this outcome. -/
  | outcome (o : Outcome)
  /-- A request was abandoned. -/
  | leaked
  /-- The instance was picked for a request. -/
  | routed
  /-- The judgement of the instance changed to this state. -/
  | movedTo (state : HealthState)
  deriving DecidableEq, Repr

/-- The counters of one instance. -/
structure Tally where
  /-- The requests sent. -/
  requests : Nat := 0
  /-- The requests answered normally. -/
  healthy : Nat := 0
  /-- The requests refused. -/
  quotaExceeded : Nat := 0
  /-- The requests that made the instance fail internally. -/
  internalServerError : Nat := 0
  /-- The requests answered by an instance that does not serve. -/
  serviceUnavailable : Nat := 0
  /-- The requests that ended in any other error. -/
  otherError : Nat := 0
  /-- The requests abandoned. -/
  leaked : Nat := 0
  /-- How often the instance was picked. -/
  routed : Nat := 0
  /-- How often the instance became unhealthy. -/
  toUnhealthy : Nat := 0
  /-- How often the instance became healthy again. -/
  toHealthy : Nat := 0
  /-- How long the ended requests took. -/
  waitingTime : Duration := .zero
  deriving DecidableEq, Repr, Inhabited

namespace Tally

/-- Counts an outcome. -/
def addOutcome (t : Tally) : Outcome → Tally
  | .healthy => { t with healthy := t.healthy + 1 }
  | .quotaExceeded => { t with quotaExceeded := t.quotaExceeded + 1 }
  | .internalServerError => { t with internalServerError := t.internalServerError + 1 }
  | .serviceUnavailable => { t with serviceUnavailable := t.serviceUnavailable + 1 }
  | .otherError => { t with otherError := t.otherError + 1 }

/-- Whether `m` can be added: the total time must stay within the limit. -/
def accepts (t : Tally) : Measure → Bool
  | .waited d => (t.waitingTime + d).fits
  | _ => true

/-- Counts a measure. -/
def add (t : Tally) : Measure → Tally
  | .request => { t with requests := t.requests + 1 }
  | .waited d => { t with waitingTime := t.waitingTime + d }
  | .outcome o => t.addOutcome o
  | .leaked => { t with leaked := t.leaked + 1 }
  | .routed => { t with routed := t.routed + 1 }
  | .movedTo .unhealthy => { t with toUnhealthy := t.toUnhealthy + 1 }
  | .movedTo .healthy => { t with toHealthy := t.toHealthy + 1 }

end Tally

/-- Something to be counted. -/
inductive Recording
  /-- A measure of an instance. -/
  | measure (endpoint : Endpoint) (m : Measure)
  /-- A request that no replica was available for. -/
  | noReplica
  deriving DecidableEq, Repr

/-- The counters of all instances. -/
structure Counters where
  /-- The counters of each instance that something was counted of. -/
  tallies : ExtTreeMap Endpoint Tally := ∅
  /-- The requests that no replica was available for. -/
  withoutReplica : Nat := 0
  /-- Whether an addition was refused. -/
  damaged : Bool := false
  deriving DecidableEq

namespace Counters

instance : Inhabited Counters := ⟨{}⟩

/-- The counters of one instance, all zero if nothing was counted of it. -/
def tally (c : Counters) (endpoint : Endpoint) : Tally := c.tallies[endpoint]?.getD {}

/-- Whether a recording can be counted. -/
def accepts (c : Counters) : Recording → Bool
  | .measure e m => (c.tally e).accepts m
  | .noReplica => true

/-- The counters after a recording.  One that cannot be counted leaves every counter as
it was, but its instance is listed from then on and the counters are damaged. -/
def add (c : Counters) : Recording → Counters
  | .measure e m =>
    let t := c.tally e
    { c with
      tallies := c.tallies.insert e (if t.accepts m then t.add m else t)
      damaged := c.damaged || !t.accepts m }
  | .noReplica => { c with withoutReplica := c.withoutReplica + 1 }

theorem tally_add_measure (c : Counters) (e a : Endpoint) (m : Measure) :
    (c.add (.measure e m)).tally a =
      if a = e ∧ (c.tally e).accepts m then (c.tally e).add m else c.tally a := by
  have h : (c.add (.measure e m)).tally a =
      if a = e then (if (c.tally e).accepts m then (c.tally e).add m else c.tally e)
      else c.tally a := by
    simp only [add, tally, getElem?_insert_eq_ite]
    split <;> rfl
  rw [h]
  by_cases hae : a = e
  · subst hae
    simp
  · simp [hae]

@[simp] theorem tally_add_noReplica (c : Counters) (a : Endpoint) :
    (c.add .noReplica).tally a = c.tally a := rfl

/-- What a use of the counters reports. -/
def touch (c : Counters) : Logged Unit :=
  if c.damaged then Logged.emit .countersDamaged else pure ()

/-- Counts a recording. -/
def record (c : Counters) (r : Recording) : Logged Counters := do
  c.touch
  return c.add r

/-- The counters of one instance. -/
def read (c : Counters) (endpoint : Endpoint) : Logged Tally := do
  c.touch
  return c.tally endpoint

/-- The counters of every instance that something was counted of, in ascending order. -/
def readAll (c : Counters) : Logged (List (Endpoint × Tally)) := do
  c.touch
  return c.tallies.toList

/-- The number of requests that no replica was available for. -/
def readWithoutReplica (c : Counters) : Logged Nat := do
  c.touch
  return c.withoutReplica

end Counters

/-- Where recordings go. -/
inductive Sink
  /-- They are dropped. -/
  | discarding
  /-- They are counted. -/
  | counting (counters : Counters)
  deriving DecidableEq

namespace Sink

/-- The counters of a sink; where recordings are dropped they stay at zero. -/
def counters : Sink → Counters
  | discarding => {}
  | counting c => c

/-- Whether a recording is dropped or can be counted. -/
def accepts : Sink → Recording → Bool
  | discarding, _ => true
  | counting c, r => c.accepts r

/-- Records one recording. -/
def record : Sink → Recording → Logged Sink
  | discarding, _ => pure discarding
  | counting c, r => counting <$> c.record r

/-- Records recordings in order. -/
def recordAll (s : Sink) (rs : List Recording) : Logged Sink := rs.foldlM record s

end Sink
end PartitionRouting
