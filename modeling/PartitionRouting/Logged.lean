import PartitionRouting.Event

/-!
# Values with the events of their computation

A computation of the routing core gives a value and the events that happened on
the way, in order.

## Main definitions

* `Logged` — a value and its events; a monad that puts events one after another.
* `Logged.emit`, `Logged.emitAll` — report events.
* `Attempt` — a logged computation that can fail with a `RoutingError`; `Attempt.andThen`
  goes on after a success.
-/

namespace PartitionRouting

/-- A value and the events of its computation, the earliest first. -/
structure Logged (α : Type) where
  /-- The value. -/
  value : α
  /-- The events, in order. -/
  events : List Event
  deriving Repr, DecidableEq

namespace Logged

variable {α β : Type}

/-- A value without events. -/
def silent (a : α) : Logged α := ⟨a, []⟩

/-- The events of `x`, then those of what follows. -/
def andThen (x : Logged α) (f : α → Logged β) : Logged β :=
  ⟨(f x.value).value, x.events ++ (f x.value).events⟩

instance : Monad Logged where
  pure := silent
  bind := andThen

/-- Reports one event. -/
def emit (e : Event) : Logged Unit := ⟨(), [e]⟩

/-- Reports events in order. -/
def emitAll (es : List Event) : Logged Unit := ⟨(), es⟩

@[simp] theorem value_pure (a : α) : (pure a : Logged α).value = a := rfl

@[simp] theorem events_pure (a : α) : (pure a : Logged α).events = [] := rfl

@[simp] theorem value_bind (x : Logged α) (f : α → Logged β) :
    (x >>= f).value = (f x.value).value := rfl

@[simp] theorem events_bind (x : Logged α) (f : α → Logged β) :
    (x >>= f).events = x.events ++ (f x.value).events := rfl

@[simp] theorem value_map (f : α → β) (x : Logged α) : (f <$> x).value = f x.value := rfl

@[simp] theorem events_map (f : α → β) (x : Logged α) : (f <$> x).events = x.events := by
  show x.events ++ [] = x.events
  simp

@[simp] theorem events_emit (e : Event) : (emit e).events = [e] := rfl

@[simp] theorem events_emitAll (es : List Event) : (emitAll es).events = es := rfl

@[ext] theorem ext {x y : Logged α} (hv : x.value = y.value) (he : x.events = y.events) :
    x = y := by
  cases x; cases y; simp_all

/-- What follows sees the value only. -/
theorem bind_congr_value {x : Logged α} {f g : α → Logged β} (h : f x.value = g x.value) :
    (x >>= f) = (x >>= g) := by
  show andThen x f = andThen x g
  rw [andThen, andThen, h]

instance : LawfulMonad Logged := LawfulMonad.mk' Logged
  (fun _ => Logged.ext rfl (events_map _ _))
  (fun _ _ => rfl)
  (fun _ _ _ => Logged.ext rfl (List.append_assoc _ _ _))

end Logged

/-- A logged computation that gives a value or says why there is none. -/
abbrev Attempt (α : Type) := Logged (Except RoutingError α)

namespace Attempt

variable {α : Type}

/-- A successful attempt without events. -/
def ok (a : α) : Attempt α := ⟨.ok a, []⟩

/-- A failed attempt, reported by one event. -/
def fail (report : Event) (cause : RoutingError) : Attempt α := ⟨.error cause, [report]⟩

/-- A computation that cannot fail. -/
def succeed (x : Logged α) : Attempt α := ⟨.ok x.value, x.events⟩

/-- The value found, or a reported failure when nothing was found. -/
def ofOption (found : Option α) (report : Event) (cause : RoutingError) : Attempt α :=
  match found with
  | some a => ok a
  | none => fail report cause

/-- What follows a successful attempt; a failed one stays as it is. -/
def andThen {β : Type} (x : Attempt α) (f : α → Attempt β) : Attempt β :=
  Logged.andThen x fun
    | .ok a => f a
    | .error cause => ⟨.error cause, []⟩

theorem value_andThen {β : Type} (x : Attempt α) (f : α → Attempt β) :
    (x.andThen f).value =
      match x.value with
      | .ok a => (f a).value
      | .error cause => .error cause := by
  show Logged.value (match x.value with | .ok a => f a | .error cause => ⟨.error cause, []⟩) = _
  cases x.value <;> rfl

theorem value_andThen_of_ok {β : Type} {x : Attempt α} {a : α} (h : x.value = .ok a)
    (f : α → Attempt β) : (x.andThen f).value = (f a).value := by
  rw [value_andThen, h]

end Attempt
end PartitionRouting
