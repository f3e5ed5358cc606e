import PartitionRouting.RoutingError

/-!
# The health signal

What replica selection knows of an instance: whether it may be given requests, and
how many it is working on.

## Main definitions

* `HealthSignal` — both answers for every endpoint.
* `HealthSignal.ofLists` — a signal that is fixed in advance.
-/

namespace PartitionRouting

/-- What is known of the instances when replicas are selected. -/
structure HealthSignal where
  /-- Whether an instance may be given requests. -/
  available : Endpoint → Bool
  /-- The number of requests to an instance that are in flight. -/
  pending : Endpoint → Nat

namespace HealthSignal

/-- The signal in which exactly the endpoints of `unavailable` are unavailable, and the
requests in flight are those listed in `pending`; of several pairs for an endpoint the
last counts, and one that is not listed has none. -/
def ofLists (unavailable : List Endpoint) (pending : List (Endpoint × Nat)) :
    HealthSignal where
  available e := !unavailable.contains e
  pending e := (pending.reverse.lookup e).getD 0

end HealthSignal
end PartitionRouting
