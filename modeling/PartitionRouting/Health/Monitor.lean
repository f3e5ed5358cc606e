import PartitionRouting.Health.Record
import PartitionRouting.Health.Signal
import PartitionRouting.Logged
import PartitionRouting.Lookup

/-!
# The health monitor

The monitor keeps a health record of every instance that was ever contacted.  An
instance without a record is available and has nothing in flight.

## Main definitions

* `Monitor` — the thresholds and the records.
* `Monitor.isAvailable`, `pending`, `state?`, `snapshot` — what can be asked.
* `Monitor.launch`, `release`, `judge` — what a request does to the record of its
  instance when it starts, when it is no longer in flight, and when its verdict is known.
* `Monitor.signal` — the monitor as the health signal of replica selection.
-/

namespace PartitionRouting

open Std

/-- The health records of all instances that were contacted. -/
structure Monitor where
  /-- The thresholds. -/
  settings : HealthSettings
  /-- The records. -/
  records : ExtTreeMap Endpoint HealthRecord := ∅
  deriving DecidableEq

namespace Monitor

/-! ### Questions -/

/-- Whether a request may be routed to `endpoint` at time `now`. -/
def isAvailable (m : Monitor) (now : Nat) (endpoint : Endpoint) : Bool :=
  match m.records[endpoint]? with
  | none => true
  | some r => r.isAvailable m.settings.retryAfter now

/-- The number of requests to `endpoint` that are in flight. -/
def pending (m : Monitor) (endpoint : Endpoint) : Nat :=
  match m.records[endpoint]? with
  | none => 0
  | some r => r.pending

/-- What `endpoint` is judged to be; nothing if it was never contacted. -/
def state? (m : Monitor) (endpoint : Endpoint) : Option HealthState :=
  m.records[endpoint]?.map (·.state)

/-- What selection may know of the instances at time `now`. -/
def signal (m : Monitor) (now : Nat) : HealthSignal where
  available := m.isAvailable now
  pending := m.pending

/-- A row of a snapshot. -/
structure Row where
  /-- The instance. -/
  endpoint : Endpoint
  /-- The number of its requests in flight. -/
  pending : Nat
  /-- What it is judged to be. -/
  state : HealthState
  deriving DecidableEq, Repr

/-- One row for each instance that was contacted, in ascending order. -/
def snapshot (m : Monitor) : List Row :=
  m.records.toList.map fun e => ⟨e.1, e.2.pending, e.2.state⟩

/-! ### Changes -/

/-- The record of `endpoint`, a fresh one if it was never contacted. -/
def record (m : Monitor) (endpoint : Endpoint) : HealthRecord :=
  m.records[endpoint]?.getD {}

/-- Changes the record of `endpoint`. -/
def update (m : Monitor) (endpoint : Endpoint) (f : HealthRecord → HealthRecord) : Monitor :=
  { m with records := m.records.insert endpoint (f (m.record endpoint)) }

theorem getElem?_records_update (m : Monitor) (e : Endpoint)
    (f : HealthRecord → HealthRecord) (a : Endpoint) :
    (m.update e f).records[a]? = if a = e then some (f (m.record e)) else m.records[a]? :=
  getElem?_insert_eq_ite m.records e a (f (m.record e))

theorem record_update (m : Monitor) (e : Endpoint) (f : HealthRecord → HealthRecord)
    (a : Endpoint) :
    (m.update e f).record a = if a = e then f (m.record e) else m.record a := by
  rw [record, getElem?_records_update]
  split <;> rfl

/-- Whether a request sent to `endpoint` at time `now` is its probe. -/
def admitsProbe (m : Monitor) (now : Nat) (endpoint : Endpoint) : Bool :=
  (m.record endpoint).admitsProbe m.settings.retryAfter now

/-- Lets a request to `endpoint` start at time `now`; gives whether it is a probe. -/
def launch (m : Monitor) (now : Nat) (endpoint : Endpoint) : Logged (Bool × Monitor) :=
  let probe := m.admitsProbe now endpoint
  ⟨(probe, m.update endpoint (·.acquire probe)),
    (if m.records.contains endpoint then [] else [.tracking endpoint]) ++
      (if probe then [.probing endpoint] else [])⟩

/-- Ends the flight of a request to `endpoint` that was admitted as a probe or not. -/
def release (m : Monitor) (endpoint : Endpoint) (probe : Bool) : Monitor :=
  m.update endpoint (·.release probe)

/-- What the change of an instance's record to `after` is reported as. -/
def moveEvents (endpoint : Endpoint) (after : HealthRecord) : HealthState → List Event
  | .healthy => [.moved endpoint .unhealthy .healthy]
  | .unhealthy =>
    [.markedUnhealthy endpoint after.failures, .moved endpoint .healthy .unhealthy]

/-- Notes the verdict on `endpoint` that a request gave at time `now`; gives the state
that the instance moved to, if it did. -/
def judge (m : Monitor) (now : Nat) (endpoint : Endpoint) (v : Verdict) :
    Logged (Option HealthState × Monitor) :=
  let before := m.record endpoint
  let after := before.judge m.settings.threshold now v
  let moved := before.moveTo? after
  ⟨(moved, m.update endpoint fun _ => after), moved.elim [] (moveEvents endpoint after)⟩

/-! ### Written form -/

/-- The written form of the thresholds. -/
def settingsText (s : HealthSettings) : String :=
  Text.recordText "HealthMonitorConfig"
    [("unhealthy_after_failures", toString s.threshold),
      ("retry_unhealthy_after_ms", toString s.retryAfter),
      ("request_timeout_ms", toString s.timeout)]

/-- The written form of a row of a snapshot. -/
def Row.text (r : Row) : String :=
  Text.recordText "InstanceSnapshot"
    [("instance", Text.quoted r.endpoint), ("pending_requests", toString r.pending),
      ("state", r.state.title)]

/-- The written form of the monitor: its thresholds and its snapshot. -/
def text (m : Monitor) : String :=
  Text.recordText "InstanceHealthMonitor"
    [("config", settingsText m.settings),
      ("instances", "[" ++ Text.commaSeparated (m.snapshot.map Row.text) ++ "]")]

end Monitor
end PartitionRouting
