import PartitionRouting.Proofs.Simulation.Course

/-!
# What an advance of the clock does

An advance lets those requests end that are due by then, starts none, and leaves the
others in flight.  A state in which no request is due is settled; whoever acts by
`Simulation.perform` only ever sees settled states, although a course has others between
them.

## Main definitions

* `Simulation.Settled` — no request is due.

## Main results

* `Simulation.clock_advanceTo`, `flights_advanceTo` — the clock and the flights after an
  advance.
* `Simulation.advance_advance` — **two advances in a row are one.**
* `Simulation.settled_run` — **no request is due after a list of actions.**
-/

namespace PartitionRouting
namespace Simulation

variable {s : Simulation} {t : Nat} {fs : List Flight} {f : Flight}

/-! ### Landings -/

theorem clock_landUntil (t : Nat) (fs : List Flight) (s : Simulation) :
    (landUntil t fs s).value.clock = t := by
  induction fs generalizing s with
  | nil => rfl
  | cons f rest ih =>
    unfold landUntil
    split
    · exact ih _
    · rfl

theorem flights_landUntil (t : Nat) (fs : List Flight) (s : Simulation) :
    (landUntil t fs s).value.flights = fs.dropWhile (·.endsAt ≤ t) := by
  induction fs generalizing s with
  | nil => rfl
  | cons f rest ih =>
    unfold landUntil
    split
    · next hle =>
      rw [List.dropWhile_cons_of_pos (by simpa using hle)]
      exact ih _
    · next hlt =>
      rw [List.dropWhile_cons_of_neg (by simpa using hlt)]
      rfl

/-- As long as nothing is due, time only passes. -/
theorem landUntil_of_forall_lt (h : ∀ f ∈ fs, t < f.endsAt) (s : Simulation) :
    landUntil t fs s = pure { s.later t with flights := fs } := by
  cases fs with
  | nil => rfl
  | cons f rest =>
    have hf := h f List.mem_cons_self
    rw [landUntil, if_neg (Nat.not_le_of_lt hf)]

theorem started?_of_mem_landings {m : Moment} (hm : m ∈ landings t fs s) :
    m.what.started? = none := by
  induction fs generalizing s with
  | nil =>
    rw [List.mem_singleton.mp hm]
    rfl
  | cons f rest ih =>
    unfold landings at hm
    split at hm
    · rcases List.mem_cons.mp hm with rfl | hm
      · rfl
      · rcases List.mem_cons.mp hm with rfl | hm
        · cases (s.later f.endsAt).countable f <;> rfl
        · exact ih hm
    · rw [List.mem_singleton.mp hm]
      rfl

/-! ### Advances -/

@[simp] theorem clock_advanceTo (s : Simulation) (t : Nat) : (s.advanceTo t).value.clock = t :=
  clock_landUntil t s.flights s

theorem flights_advanceTo (s : Simulation) (t : Nat) :
    (s.advanceTo t).value.flights = s.flights.dropWhile (·.endsAt ≤ t) :=
  flights_landUntil t s.flights s

/-- What is left of a list ordered by end starts after the flights that are due. -/
theorem lt_endsAt_of_mem_dropWhile (h : fs.Pairwise (·.endsAt ≤ ·.endsAt))
    (hf : f ∈ fs.dropWhile (·.endsAt ≤ t)) : t < f.endsAt := by
  induction fs with
  | nil => contradiction
  | cons g rest ih =>
    obtain ⟨hg, hrest⟩ := List.pairwise_cons.mp h
    by_cases hdue : g.endsAt ≤ t
    · rw [List.dropWhile_cons_of_pos (by simpa using hdue)] at hf
      exact ih hrest hf
    · rw [List.dropWhile_cons_of_neg (by simpa using hdue)] at hf
      rcases List.mem_cons.mp hf with rfl | hf
      · omega
      · have := hg f hf
        omega

/-- No request is due. -/
def Settled (s : Simulation) : Prop := ∀ f ∈ s.flights, s.clock < f.endsAt

theorem settled_advanceTo (hs : s.Orderly) (t : Nat) : (s.advanceTo t).value.Settled := by
  intro f hf
  rw [flights_advanceTo] at hf
  rw [clock_advanceTo]
  exact lt_endsAt_of_mem_dropWhile hs.pairwise hf

/-- Where nothing is due, nothing happens while no time passes. -/
theorem value_advanceTo_clock (hs : s.Settled) : (s.advanceTo s.clock).value = s := by
  rw [advanceTo, landUntil_of_forall_lt hs]
  rfl

/-- What ends on the way depends neither on the time at which an advance sets out nor on what
else is in flight. -/
theorem landUntil_update (t : Nat) (fs gs : List Flight) (c : Nat) (s : Simulation) :
    landUntil t fs { s with clock := c, flights := gs } = landUntil t fs s := by
  cases fs with
  | nil => rfl
  | cons f rest =>
    unfold landUntil
    split <;> rfl

theorem landUntil_landUntil {t u : Nat} (htu : t ≤ u) (fs : List Flight) (s : Simulation) :
    (landUntil t fs s >>= fun s' => landUntil u s'.flights s') = landUntil u fs s := by
  induction fs generalizing s with
  | nil => rfl
  | cons f rest ih =>
    by_cases hdue : f.endsAt ≤ t
    · have hdue' : f.endsAt ≤ u := Nat.le_trans hdue htu
      rw [landUntil, if_pos hdue, landUntil, if_pos hdue', bind_assoc]
      exact bind_congr fun s' => ih s'
    -- the first advance stops before the flight, and the second takes up from there
    · rw [landUntil, if_neg hdue, pure_bind]
      exact landUntil_update u (f :: rest) (f :: rest) t s

/-- **Two advances in a row are one**, with the same events. -/
theorem advance_advance (s : Simulation) (a b : Nat) :
    (s.advance a >>= fun s' => s'.advance b) = s.advance (a + b) := by
  have hclock : (s.advance a).value.clock + b = s.clock + (a + b) := by
    rw [advance, clock_advanceTo, Nat.add_assoc]
  calc s.advance a >>= fun s' => s'.advance b
    _ = s.advance a >>= fun s' => s'.advanceTo (s.clock + (a + b)) :=
      Logged.bind_congr_value (congrArg _ hclock)
    _ = s.advance (a + b) := landUntil_landUntil (by omega) s.flights s

/-! ### Actions -/

theorem orderly_depart (hs : s.Orderly) (label : Option String) (e : Endpoint) :
    (s.depart label e).value.Orderly := orderly_step (Step.depart s label e) hs

theorem settled_perform (hs : s.Orderly) (hsettled : s.Settled) (a : Action) :
    (s.perform a).value.Settled := by
  cases a with
  | start label e => exact settled_advanceTo (orderly_depart hs (some label) e) _
  | send e => exact settled_advanceTo (orderly_depart hs none e) _
  | join label =>
    rw [perform, join]
    split
    · exact hsettled
    · exact settled_advanceTo hs _
  | cancel label =>
    rw [perform, cancel]
    split
    · exact hsettled
    · exact fun g hg => hsettled g (List.mem_of_mem_erase hg)
  | advance ms => exact settled_advanceTo hs _
  | change e c => exact hsettled

theorem orderly_perform (hs : s.Orderly) (a : Action) : (s.perform a).value.Orderly :=
  orderly_course (course_historyOf hs a) hs

theorem clock_le_perform (hs : s.Orderly) (a : Action) : s.clock ≤ (s.perform a).value.clock :=
  clock_le_of_course (course_historyOf hs a)

/-- **No request is due after a list of actions.** -/
theorem settled_run (hs : s.Orderly) (hsettled : s.Settled) (as : List Action) :
    (s.run as).value.Settled := by
  induction as generalizing s with
  | nil => exact hsettled
  | cons a rest ih => exact ih (orderly_perform hs a) (settled_perform hs hsettled a)

end Simulation
end PartitionRouting
