import PartitionRouting.Event
import PartitionRouting.Lookup

/-!
# A network of simulated instances

A simulated instance answers after its latency: with its status code, or, if it is
faulty, not at all, so that the transport fails.

## Main definitions

* `Behaviour` — how an instance behaves at present.
* `Network` — the behaviour of every instance, and how often each was contacted.
* `Ending` — how a request ends; `Behaviour.answer` is what an instance gives.
-/

namespace PartitionRouting

open Std

/-- How a simulated instance answers. -/
structure Behaviour where
  /-- The status code of its answers. -/
  status : StatusCode := 200
  /-- Whether requests to it fail in the transport. -/
  faulty : Bool := false
  /-- How long its answers take. -/
  latency : Duration := .zero
  deriving DecidableEq, Repr, Inhabited

/-- A change of an instance's behaviour. -/
inductive BehaviourChange
  /-- Its answers have another status code. -/
  | status (code : StatusCode)
  /-- The transport fails, or works again. -/
  | faulty (b : Bool)
  /-- Its answers take another time. -/
  | latency (d : Duration)
  deriving DecidableEq, Repr

/-- The behaviour after a change. -/
def Behaviour.change (b : Behaviour) : BehaviourChange → Behaviour
  | .status code => { b with status := code }
  | .faulty f => { b with faulty := f }
  | .latency d => { b with latency := d }

/-- The behaviour of all simulated instances, and how often each was contacted. -/
structure Network where
  /-- The behaviour of the instances that it was set for. -/
  behaviours : ExtTreeMap Endpoint Behaviour := ∅
  /-- The number of requests delivered to each instance. -/
  calls : ExtTreeMap Endpoint Nat := ∅
  deriving DecidableEq

namespace Network

/-- The present behaviour of an instance. -/
def behaviour (n : Network) (endpoint : Endpoint) : Behaviour :=
  n.behaviours[endpoint]?.getD {}

/-- How often an instance was contacted. -/
def callCount (n : Network) (endpoint : Endpoint) : Nat := n.calls[endpoint]?.getD 0

/-- The network after a change of an instance's behaviour. -/
def change (n : Network) (endpoint : Endpoint) (c : BehaviourChange) : Network :=
  { n with behaviours := n.behaviours.insert endpoint ((n.behaviour endpoint).change c) }

theorem behaviour_change (n : Network) (e a : Endpoint) (c : BehaviourChange) :
    (n.change e c).behaviour a = if a = e then (n.behaviour e).change c else n.behaviour a := by
  unfold change behaviour
  rw [getElem?_insert_eq_ite]
  split <;> rfl

/-- The network after a request was delivered to an instance. -/
def call (n : Network) (endpoint : Endpoint) : Network :=
  { n with calls := n.calls.insert endpoint (n.callCount endpoint + 1) }

theorem callCount_call (n : Network) (e a : Endpoint) :
    (n.call e).callCount a = if a = e then n.callCount e + 1 else n.callCount a := by
  unfold call callCount
  rw [getElem?_insert_eq_ite]
  split <;> rfl

end Network

/-- How a request ends. -/
inductive Ending
  /-- The instance answered. -/
  | answered (code : StatusCode)
  /-- The transport failed. -/
  | broken (cause : RoutingError)
  /-- Nothing was heard within so many milliseconds. -/
  | timedOut (limit : Nat)
  deriving DecidableEq, Repr

/-- The complaint of a transport that cannot deliver a request. -/
def transportError (endpoint : Endpoint) : RoutingError :=
  .io ("Mocked transport error sending to " ++ endpoint)

/-- What an instance of this behaviour gives once its latency is over. -/
def Behaviour.answer (b : Behaviour) (endpoint : Endpoint) : Ending :=
  if b.faulty then .broken (transportError endpoint) else .answered b.status

end PartitionRouting
