import PartitionRouting.Health.Monitor
import PartitionRouting.Simulation.Flight

/-!
# Monitored requests over simulated time

A simulation sends requests to the instances of a network while the health monitor
watches.  Its clock counts milliseconds and moves only when it is told to.  On its way it
stops wherever the poll of a flight finds something; flights that end together do so in the
order in which they started.

## Main definitions

* `Simulation` — the clock, the monitor, the network, the counters, the flights and
  the landings so far; `Simulation.fresh` is where it begins.
* `Simulation.start`, `send`, `join`, `cancel`, `advance`, `change` — what can be done.
* `Simulation.Action`, `Simulation.perform`, `Simulation.run` — the same as values.
-/

namespace PartitionRouting

/-- The state of a simulation. -/
structure Simulation where
  /-- The time that has passed, in milliseconds. -/
  clock : Nat := 0
  /-- The health monitor. -/
  monitor : Monitor
  /-- The instances. -/
  network : Network := {}
  /-- Where recordings go. -/
  sink : Sink
  /-- The requests in flight, ordered by end. -/
  flights : List Flight := []
  /-- The requests that have ended, in order. -/
  landed : List Landing := []

namespace Simulation

/-- A simulation at time zero, in which nothing was sent. -/
def fresh (settings : HealthSettings) (network : Network) (sink : Sink) : Simulation :=
  { monitor := { settings }, network, sink }

/-! ### Questions -/

/-- Whether a request may be routed to `endpoint` at present. -/
def isAvailable (s : Simulation) (endpoint : Endpoint) : Bool :=
  s.monitor.isAvailable s.clock endpoint

/-- What selection may know of the instances at present. -/
def signal (s : Simulation) : HealthSignal := s.monitor.signal s.clock

/-- The request in flight of the given name. -/
def inFlight? (s : Simulation) (label : String) : Option Flight :=
  s.flights.find? (·.label = some label)

/-- The last request of the given name that has ended. -/
def landed? (s : Simulation) (label : String) : Option Landing :=
  s.landed.reverse.find? (·.flight.label = some label)

/-- What the sender of the request of the given name is given, once it has ended. -/
def result? (s : Simulation) (label : String) : Option RequestResult :=
  (s.landed? label).map Landing.result

/-! ### Flights -/

/-- The flight of a request that starts now. -/
def newFlight (s : Simulation) (label : Option String) (endpoint : Endpoint) : Flight :=
  { label, endpoint
    startedAt := s.clock
    behaviour := s.network.behaviour endpoint
    timeout := s.monitor.settings.timeout
    probe := s.monitor.admitsProbe s.clock endpoint }

/-- Lets a request start. -/
def depart (s : Simulation) (label : Option String) (endpoint : Endpoint) :
    Logged Simulation := do
  let (_, monitor) ← s.monitor.launch s.clock endpoint
  let sink ← s.sink.record (.measure endpoint .request)
  return { s with
    monitor, sink
    network := s.network.call endpoint
    flights := schedule (s.newFlight label endpoint) s.flights }

/-- Ends a flight at present, with what a poll has found, and accounts for it.  If the time
it took cannot be counted, the request is lost: it is no longer in flight, and nobody learns
how it ended. -/
def land (s : Simulation) (f : Flight) (found : Ending) : Logged Simulation := do
  let waited := Recording.measure f.endpoint (.waited (f.elapsed s.clock))
  let sink ← s.sink.record waited
  if s.sink.accepts waited then
    Logged.emitAll (found.events f.endpoint)
    let sink ← sink.record (.measure f.endpoint found.measure)
    let (moved, monitor) ← s.monitor.judge s.clock f.endpoint found.verdict
    let sink ← sink.recordAll (moved.toList.map fun m => .measure f.endpoint (.movedTo m))
    return { s with
      sink
      monitor := monitor.release f.endpoint f.probe
      landed := s.landed ++ [⟨f, s.clock, found⟩] }
  else
    return { s with
      sink
      monitor := s.monitor.release f.endpoint f.probe }

/-- Takes a flight back before its end. -/
def drop (s : Simulation) (f : Flight) : Simulation :=
  { s with
    monitor := s.monitor.release f.endpoint f.probe
    flights := s.flights.erase f }

/-- The same state at a later time. -/
def later (s : Simulation) (t : Nat) : Simulation := { s with clock := t }

/-- Ends those of the listed flights that end by time `t`, each when the first poll finds
something; the others stay in flight. -/
def landUntil (t : Nat) : List Flight → Simulation → Logged Simulation
  | [], s => pure { s.later t with flights := [] }
  | f :: rest, s =>
    if f.endsAt ≤ t then do
      let s ← land { s.later f.endsAt with flights := rest } f f.ending
      landUntil t rest s
    else pure { s.later t with flights := f :: rest }

/-! ### Actions -/

/-- Moves the clock to time `t`. -/
def advanceTo (s : Simulation) (t : Nat) : Logged Simulation := landUntil t s.flights s

/-- Moves the clock by `ms`. -/
def advance (s : Simulation) (ms : Nat) : Logged Simulation := s.advanceTo (s.clock + ms)

/-- Sends a request without waiting for it. -/
def start (s : Simulation) (label : Option String) (endpoint : Endpoint) :
    Logged Simulation := do
  let s ← s.depart label endpoint
  s.advanceTo s.clock

/-- Sends a request and waits for its end. -/
def send (s : Simulation) (endpoint : Endpoint) : Logged Simulation := do
  let f := s.newFlight none endpoint
  let s ← s.depart none endpoint
  s.advanceTo f.endsAt

/-- Waits for the end of the request of the given name, if it is in flight. -/
def join (s : Simulation) (label : String) : Logged Simulation :=
  match s.inFlight? label with
  | none => pure s
  | some f => s.advanceTo f.endsAt

/-- Drops the request of the given name, if it is in flight. -/
def cancel (s : Simulation) (label : String) : Simulation :=
  match s.inFlight? label with
  | none => s
  | some f => s.drop f

/-- Changes the behaviour of an instance; requests in flight are not affected. -/
def change (s : Simulation) (endpoint : Endpoint) (c : BehaviourChange) : Simulation :=
  { s with network := s.network.change endpoint c }

/-- Something that can be done in a simulation. -/
inductive Action
  /-- Sends a named request without waiting for it. -/
  | start (label : String) (endpoint : Endpoint)
  /-- Sends a request and waits for its end. -/
  | send (endpoint : Endpoint)
  /-- Waits for the end of a named request. -/
  | join (label : String)
  /-- Drops a named request. -/
  | cancel (label : String)
  /-- Lets time pass. -/
  | advance (ms : Nat)
  /-- Changes the behaviour of an instance. -/
  | change (endpoint : Endpoint) (c : BehaviourChange)
  deriving DecidableEq, Repr

/-- The simulation after an action. -/
def perform (s : Simulation) : Action → Logged Simulation
  | .start label endpoint => s.start (some label) endpoint
  | .send endpoint => s.send endpoint
  | .join label => s.join label
  | .cancel label => pure (s.cancel label)
  | .advance ms => s.advance ms
  | .change endpoint c => pure (s.change endpoint c)

/-- The simulation after a sequence of actions. -/
def run (s : Simulation) (actions : List Action) : Logged Simulation :=
  actions.foldlM perform s

/-! ### Reports -/

/-- The named requests that have ended since `before`, except the one waited for, with
what their senders are given, in ascending order of their names. -/
def endedSince (before s : Simulation) (awaited : Option String) :
    List (String × RequestResult) :=
  let ended := (s.landed.drop before.landed.length).filterMap fun l =>
    l.flight.label.map fun label => (label, l.result)
  (ended.filter fun e => awaited ≠ some e.1).mergeSort fun x y => x.1 ≤ y.1

/-- What the sender of a request to `endpoint` is given that was sent from state `before`
and waited for until state `s`. -/
def sentResult? (before s : Simulation) (endpoint : Endpoint) : Option RequestResult :=
  (s.landed.drop before.landed.length).find? (·.flight = before.newFlight none endpoint)
    |>.map Landing.result

end Simulation
end PartitionRouting
