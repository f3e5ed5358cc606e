import PartitionRouting.Duration

/-!
# Client settings

A client of a store is set up with the name of the store, the strategy that picks
replicas, and the thresholds of the health monitor.  Settings can be written down
that make no sense; `Settings.violation?` names the first rule they break.

## Main definitions

* `Strategy`, `HealthSettings`, `Settings` — the settings and their defaults.
* `Settings.Violation` — the rules that settings can break.
* `Settings.violation?` — the first broken rule.
-/

namespace PartitionRouting

/-- How replicas are picked among the available candidates. -/
inductive Strategy
  /-- Those with the fewest requests in flight. -/
  | leastLoaded
  /-- Each in turn. -/
  | roundRobin
  deriving DecidableEq, Repr, Inhabited

/-- The name of a strategy in settings. -/
def Strategy.label : Strategy → String
  | leastLoaded => "least_loaded"
  | roundRobin => "round_robin"

/-- The thresholds of the health monitor. -/
structure HealthSettings where
  /-- The number of failed requests in a row that make an instance unhealthy. -/
  unhealthyAfterFailures : UInt64 := 3
  /-- How long an unhealthy instance is left alone after its last failure, in
  milliseconds. -/
  retryUnhealthyAfterMs : UInt64 := 10000
  /-- How long a request may take before it is abandoned, in milliseconds. -/
  requestTimeoutMs : UInt64 := 5000
  deriving DecidableEq, Repr, Inhabited

namespace HealthSettings

/-- The number of failures in a row that make an instance unhealthy. -/
def threshold (s : HealthSettings) : Nat := s.unhealthyAfterFailures.toNat

/-- The time that an unhealthy instance is left alone, in milliseconds. -/
def retryAfter (s : HealthSettings) : Nat := s.retryUnhealthyAfterMs.toNat

/-- The time after which a request is abandoned, in milliseconds. -/
def timeout (s : HealthSettings) : Nat := s.requestTimeoutMs.toNat

end HealthSettings

/-- The settings of a client of one store. -/
structure Settings where
  /-- The store whose versions are read. -/
  storeName : String
  /-- How replicas are picked. -/
  strategy : Strategy := .leastLoaded
  /-- The thresholds of the health monitor. -/
  health : HealthSettings := {}
  deriving DecidableEq, Repr

namespace Settings

/-- The settings of a client of a store with everything else as usual. -/
def ofName (storeName : String) : Settings := { storeName }

/-- A rule that settings can break. -/
inductive Violation
  /-- The store has no name. -/
  | emptyStoreName
  /-- An instance would be unhealthy without a failure. -/
  | zeroFailureThreshold
  /-- Every request would be abandoned at once. -/
  | zeroRequestTimeout
  deriving DecidableEq, Repr

/-- The complaint about a broken rule. -/
def Violation.reason : Violation → String
  | emptyStoreName => "store_name cannot be empty"
  | zeroFailureThreshold => "health.unhealthy_after_failures must be at least 1"
  | zeroRequestTimeout => "health.request_timeout_ms must be at least 1"

/-- The first rule that the settings break, if they break one. -/
def violation? (s : Settings) : Option Violation :=
  if s.storeName = "" then some .emptyStoreName
  else if s.health.unhealthyAfterFailures = 0 then some .zeroFailureThreshold
  else if s.health.requestTimeoutMs = 0 then some .zeroRequestTimeout
  else none

end Settings
end PartitionRouting
