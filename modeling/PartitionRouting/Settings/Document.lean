import PartitionRouting.Json.Decode
import PartitionRouting.Settings.Basic

/-!
# Settings as a document

## Main definitions

* `Settings.ofValue?` — the settings that a value of a document stands for.
* `Settings.ofDocument?` — the settings of a whole document.
-/

namespace PartitionRouting

open Json

/-- A strategy: its name, or an object whose only member has that name and no value. -/
def Strategy.ofValue? (v : Value) : Option Strategy := do
  let name ← match v with
    | .string s => s.text?
    | .object [(key, .null)] => key.text?
    | _ => none
  if name = Strategy.leastLoaded.label then some .leastLoaded
  else if name = Strategy.roundRobin.label then some .roundRobin
  else none

/-- A 64-bit number. -/
def wordOfValue? (v : Value) : Option UInt64 :=
  (v.natural? (UInt64.size - 1)).map Nat.toUInt64

namespace HealthSettings

/-- The names of the thresholds in a document, in order. -/
def fieldNames : List String :=
  ["unhealthy_after_failures", "retry_unhealthy_after_ms", "request_timeout_ms"]

/-- The thresholds that a value stands for; each has a default. -/
def ofValue? (v : Value) : Option HealthSettings := do
  let usual : HealthSettings := {}
  let fields ← v.fields? fieldNames
  match fields with
  | [failures, retry, timeout] =>
    return {
      unhealthyAfterFailures := ← field? (some usual.unhealthyAfterFailures) wordOfValue? failures
      retryUnhealthyAfterMs := ← field? (some usual.retryUnhealthyAfterMs) wordOfValue? retry
      requestTimeoutMs := ← field? (some usual.requestTimeoutMs) wordOfValue? timeout }
  | _ => none

end HealthSettings

namespace Settings

/-- The names of the settings in a document, in order. -/
def fieldNames : List String := ["store_name", "routing_strategy", "health"]

/-- The settings that a value stands for; all but the name of the store have defaults. -/
def ofValue? (v : Value) : Option Settings := do
  let fields ← v.fields? fieldNames
  match fields with
  | [name, strategy, health] =>
    let usual := ofName (← field? none Value.text? name)
    return { usual with
      strategy := ← field? (some usual.strategy) Strategy.ofValue? strategy
      health := ← field? (some usual.health) HealthSettings.ofValue? health }
  | _ => none

/-- The settings of a document. -/
def ofDocument? (document : String) : Option Settings := do
  let v ← Json.read? document
  ofValue? v

end Settings
end PartitionRouting
