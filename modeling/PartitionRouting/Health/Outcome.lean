/-!
# Outcomes of answered requests

An instance answers a request with a status code.  For health accounting only the
class of the code matters: a missing key is a normal answer, a refused request
says nothing about the health of the instance, and everything outside the classes
below is an error of the instance.

## Main definitions

* `Outcome`, `Outcome.ofStatus` — the classes, and the class of a code.
* `Outcome.isFailure` — the classes that count against the instance.
* `HealthState` — what an instance is judged to be.
-/

namespace PartitionRouting

/-- The status code that an instance answers with. -/
abbrev StatusCode := UInt16

/-- How an answer counts for the health of the instance that gave it. -/
inductive Outcome
  /-- A normal answer. -/
  | healthy
  /-- The request was refused; this says nothing about health. -/
  | quotaExceeded
  /-- The instance failed internally. -/
  | internalServerError
  /-- The instance does not serve at present. -/
  | serviceUnavailable
  /-- Any other answer, or none at all. -/
  | otherError
  deriving DecidableEq, Repr, Inhabited

namespace Outcome

/-- The class of a status code. -/
def ofStatus (code : StatusCode) : Outcome :=
  if (200 ≤ code ∧ code ≤ 299) ∨ code = 404 then .healthy
  else if code = 429 then .quotaExceeded
  else if code = 500 then .internalServerError
  else if code = 503 then .serviceUnavailable
  else .otherError

/-- Whether the outcome counts as a failure of the instance. -/
def isFailure : Outcome → Bool
  | healthy => false
  | quotaExceeded => false
  | internalServerError => true
  | serviceUnavailable => true
  | otherError => true

/-- The name of an outcome in reports. -/
def label : Outcome → String
  | healthy => "healthy"
  | quotaExceeded => "quota_exceeded"
  | internalServerError => "internal_server_error"
  | serviceUnavailable => "service_unavailable"
  | otherError => "other_error"

end Outcome

/-- What an instance that was contacted is judged to be. -/
inductive HealthState
  /-- Requests may be routed to the instance. -/
  | healthy
  /-- Requests are routed elsewhere until the instance has proved itself. -/
  | unhealthy
  deriving DecidableEq, Repr, Inhabited

namespace HealthState

/-- The name of a state within a sentence. -/
def label : HealthState → String
  | healthy => "healthy"
  | unhealthy => "unhealthy"

/-- The name of a state as a value of a written record. -/
def title : HealthState → String
  | healthy => "Healthy"
  | unhealthy => "Unhealthy"

end HealthState
end PartitionRouting
