import PartitionRouting.Proofs.Selection.Ranking
import PartitionRouting.Proofs.Simulation.Advance
import PartitionRouting.Proofs.Store.Step

/-!
# Loads stay balanced

Under the least loaded strategy each request is sent where the fewest requests are in flight,
and by being sent there it changes what the next request sees.  If loads differ by at most one
to begin with, then in this way they always do: a round raises only the loads that are least,
and starts on the higher ones no earlier than all of the lower ones were raised.

All candidates have to be available whenever replicas are asked for.  Healthy ones stay so,
since none of their requests ends; an unhealthy one would be left out once its probe started,
and the others would run ahead of it.

## Main definitions

* `LeastFirst` — a list takes the lower loads first.
* `Store.Balanced` — the numbers of requests in flight differ by at most one.
* `Store.Offers` — the candidates of a request form a given set, and all are available.
* `Store.Rounds` — replicas are asked for and requests sent to them, round after round.
* `Store.Halfway` — what holds of the loads in the middle of a round.
* `Store.Ready` — a round may begin, and its requests take some time.

## Main results

* `LeastFirst.balanced` — **raising loads in such an order keeps them within one.**
* `leastFirst_selectLeastLoaded` — a selection by load is such a list.
* `Store.halfway_rounds` — the invariant of the rounds.
* `Store.available_rounds` — healthy candidates stay available.
* `Store.balanced_run` — loads are balanced after any number of `startReplicas` in a row.
* `Store.rounds_balanced` — **loads stay balanced from round to round** and within a round.
-/

namespace PartitionRouting

/-! ### Loads -/

/-- Loads differ by at most one. -/
def BalancedLoads (load : Endpoint → ℕ) (E : Set Endpoint) : Prop :=
  ∀ x ∈ E, ∀ y ∈ E, load x ≤ load y + 1

/-- **The list takes the lower loads first**: none that it has taken at any point is higher
than one that it has yet to take. -/
def LeastFirst (load : Endpoint → ℕ) (E : Set Endpoint) (l : List Endpoint) : Prop :=
  ∀ taken, taken <+: l → ∀ x ∈ taken, ∀ y ∈ E, y ∉ taken → load x ≤ load y

/-- **Raising loads in ascending order keeps them within one of each other.** -/
theorem LeastFirst.balanced {load load' : Endpoint → ℕ} {E : Set Endpoint}
    {l taken : List Endpoint} (hl : LeastFirst load E l) (hload : BalancedLoads load E)
    (htaken : taken <+: l) (hraised : ∀ e ∈ E, load' e = load e + if e ∈ taken then 1 else 0) :
    BalancedLoads load' E := by
  intro x hx y hy
  rw [hraised x hx, hraised y hy]
  have hwithin := hload x hx y hy
  by_cases hxt : x ∈ taken
  · by_cases hyt : y ∈ taken
    · rw [if_pos hxt, if_pos hyt]
      omega
    -- only here does the distance grow, from at most nothing
    · have hle := hl taken htaken x hxt y hy hyt
      rw [if_pos hxt, if_neg hyt]
      omega
  · rw [if_neg hxt]
    omega

/-- A selection by load takes the lower loads first. -/
theorem leastFirst_selectLeastLoaded {signal : HealthSignal} {E : Set Endpoint}
    {cs : List Endpoint} (hcs : ∀ e ∈ E, e ∈ cs) (havailable : ∀ e ∈ E, signal.available e)
    (requestId : UInt64) (count : ℕ) :
    LeastFirst signal.pending E (selectLeastLoaded signal requestId cs count) := by
  intro taken htaken x hx y hy hyt
  have hranks := ranks_ranking signal requestId cs
  -- what is taken is itself the beginning of the ranking
  have hbeginning : taken <+: ranking signal requestId cs :=
    htaken.trans (List.take_prefix count _)
  rw [List.prefix_iff_eq_take.mp hbeginning] at hx hyt
  have hlisted := (hranks.mem_iff y).mpr ⟨hcs y hy, havailable y hy⟩
  exact pending_le_of_standing_lt (hranks.lt_of_mem_take hx hlisted hyt)

/-! ### Requests that take time -/

/-- No request is due, and requests to the instances in `E` take some time. -/
structure Simulation.Unhurried (s : Simulation) (E : Set Endpoint) : Prop where
  /-- No request is due. -/
  settled : s.Settled
  /-- A request may take some time. -/
  timeout : 0 < s.monitor.settings.timeout
  /-- A request to an instance in `E` takes some time. -/
  latency : ∀ e ∈ E, 0 < (s.network.behaviour e).latency.nanos

namespace Simulation.Unhurried

variable {s : Simulation} {E : Set Endpoint} {e : Endpoint}

theorem depart (hs : s.Unhurried E) (he : e ∈ E) (label : Option String) :
    (s.depart label e).value.Unhurried E where
  settled := by
    intro f hf
    rcases List.mem_cons.mp ((perm_schedule _ _).mem_iff.mp hf) with rfl | hf
    · exact (s.newFlight label e).startedAt_lt_endsAt (hs.latency e he) hs.timeout
    · exact hs.settled f hf
  timeout := hs.timeout
  latency := hs.latency

/-- The start of a request is a single step. -/
theorem value_start (hs : s.Unhurried E) (he : e ∈ E) (label : Option String) :
    (s.start label e).value = (s.depart label e).value := by
  rw [start, Logged.value_bind]
  exact value_advanceTo_clock (hs.depart he label).settled

end Simulation.Unhurried

namespace Store

/-! ### Rounds -/

/-- The candidates for a partition of a version are those in `E`, and all are available. -/
structure Offers (s : Store) (version : UInt32) (partition : PartitionId) (E : Set Endpoint) :
    Prop where
  /-- The candidates are those in `E`. -/
  candidates : ∃ cs, (s.candidates version partition).value = .ok cs ∧ ∀ e, e ∈ cs ↔ e ∈ E
  /-- All of them are available. -/
  available : ∀ e ∈ E, s.simulation.isAvailable e

/-- **Rounds of requests for one partition**, of which the last was given the replicas `given`
and has started requests to `started` so far, in this order.  Between the steps of the rounds
anything may happen that starts, ends or drops no other request to the candidates. -/
inductive Rounds (version : UInt32) (partition : PartitionId) (E : Set Endpoint) (s₀ : Store) :
    List Endpoint → List Endpoint → Store → Prop
  /-- No round has begun. -/
  | start : Rounds version partition E s₀ [] [] s₀
  /-- A round begins once a request to each replica of the last was started. -/
  | ask {given started replicas : List Endpoint} {s s' : Store} {requestId : UInt64}
    {count : ℕ} (hr : Rounds version partition E s₀ given started s)
    (hdone : started.Perm given) (hoffers : s.Offers version partition E)
    (hs : Step s (.asked requestId version partition count (.ok replicas)) s') :
    Rounds version partition E s₀ replicas [] s'
  /-- A request is started to one of the replicas. -/
  | send {given started : List Endpoint} {s s' : Store} {f : Flight}
    (hr : Rounds version partition E s₀ given started s) (hgiven : f.endpoint ∈ given)
    (hnew : f.endpoint ∉ started) (hs : Step s (.simulated (.departed f)) s') :
    Rounds version partition E s₀ given (started ++ [f.endpoint]) s'
  /-- Something else happens. -/
  | other {given started : List Endpoint} {s s' : Store} {o : Occurrence}
    (hr : Rounds version partition E s₀ given started s) (hs : Step s o s')
    (ho : ∀ f, o.request? = some f → f.endpoint ∉ E) :
    Rounds version partition E s₀ given started s'

/-- The number of requests to an instance that are in flight. -/
def load (s : Store) (e : Endpoint) : ℕ := s.simulation.monitor.pending e

/-- **The numbers of requests in flight differ by at most one.** -/
def Balanced (s : Store) (E : Set Endpoint) : Prop := BalancedLoads s.load E

variable {s s' s₀ : Store} {o : Occurrence} {requestId : UInt64} {version : UInt32}
  {partition : PartitionId} {count : ℕ} {E : Set Endpoint} {given started : List Endpoint}
  {e : Endpoint} {f : Flight}

theorem load_step_of_ne (hs : Step s o s') (ho : ∀ f, o.request? = some f → f.endpoint ≠ e) :
    s'.load e = s.load e := by
  rw [load, load, Monitor.pending_eq, Monitor.pending_eq, record_step_of_ne hs ho]

theorem load_step_of_departed (hs : Step s (.simulated (.departed f)) s') (e : Endpoint) :
    s'.load e = s.load e + if e = f.endpoint then 1 else 0 := by
  cases hs with
  | simulate h =>
    have hrecord := Simulation.record_step_of_departed h e
    rw [load, load, Monitor.pending_eq, Monitor.pending_eq, hrecord]
    split <;> rfl

/-- **A round halfway through**: the loads are those at its beginning, which were balanced,
plus one for each request that it started, and its replicas take the lower loads first. -/
structure Halfway (E : Set Endpoint) (given started : List Endpoint) (s : Store) : Prop where
  /-- The strategy is by load. -/
  strategy : s.selector.strategy = .leastLoaded
  /-- There are loads at the beginning of the round. -/
  loads : ∃ load₀, BalancedLoads load₀ E ∧ LeastFirst load₀ E given ∧
    ∀ e ∈ E, s.load e = load₀ e + if e ∈ started then 1 else 0

theorem Halfway.balanced_of_prefix (hh : Halfway E given started s) (hstarted : started <+: given) :
    s.Balanced E := by
  obtain ⟨load₀, hbalanced, hleast, hload⟩ := hh.loads
  exact hleast.balanced hbalanced hstarted hload

theorem Halfway.balanced_of_perm (hh : Halfway E given started s) (hdone : started.Perm given) :
    s.Balanced E := by
  obtain ⟨load₀, hbalanced, hleast, hload⟩ := hh.loads
  refine hleast.balanced hbalanced (List.prefix_refl given) fun e he => ?_
  rw [hload e he]
  simp only [hdone.mem_iff]

/-- A round that begins where loads are balanced is halfway through with nothing started. -/
theorem halfway_ask (hs : Step s (.asked requestId version partition count (.ok given)) s')
    (hstrategy : s.selector.strategy = .leastLoaded) (hbalanced : s.Balanced E)
    (hoffers : s.Offers version partition E) : Halfway E given [] s' := by
  refine ⟨(strategy_step hs).trans hstrategy, s.load, hbalanced, ?_, ?_⟩
  · obtain ⟨cs, hcs, hmem⟩ := hoffers.candidates
    cases hs with
    | ask h =>
      obtain ⟨sink, hvalue⟩ := exists_value_replicas hcs requestId count
      rw [hvalue] at h
      have hgiven : given = selectLeastLoaded s.simulation.signal requestId cs count := by
        rw [← Except.ok.inj (Prod.mk.inj h).1, Selector.select, hstrategy]
      rw [hgiven]
      exact leastFirst_selectLeastLoaded (fun e he => (hmem e).mpr he) hoffers.available
        requestId count
  · intro e _
    exact load_step_of_ne hs nofun

/-- **Every step of the rounds leaves the present one halfway through.** -/
theorem halfway_rounds (hr : Rounds version partition E s₀ given started s)
    (hstrategy : s₀.selector.strategy = .leastLoaded) (hbalanced : s₀.Balanced E) :
    Halfway E given started s := by
  induction hr with
  | start =>
    refine ⟨hstrategy, s₀.load, hbalanced, ?_, ?_⟩
    · intro taken htaken x hx
      rw [List.prefix_nil.mp htaken] at hx
      contradiction
    · intro e _
      rfl
  | ask _ hdone hoffers hs ih =>
    exact halfway_ask hs ih.strategy (ih.balanced_of_perm hdone) hoffers
  | @send given started s s' f _ _ hnew hs ih =>
    -- the instance was not sent its request of this round before
    obtain ⟨load₀, hbalanced₀, hleast, hload⟩ := ih.loads
    refine ⟨(strategy_step hs).trans ih.strategy, load₀, hbalanced₀, hleast, ?_⟩
    intro e he
    rw [load_step_of_departed hs, hload e he]
    by_cases hf : e = f.endpoint
    · subst hf
      simp [hnew]
    · simp [hf]
  | @other given started s s' o _ hs ho ih =>
    obtain ⟨load₀, hbalanced₀, hleast, hload⟩ := ih.loads
    refine ⟨(strategy_step hs).trans ih.strategy, load₀, hbalanced₀, hleast, ?_⟩
    intro e he
    rw [← hload e he]
    refine load_step_of_ne hs ?_
    intro f hf heq
    exact ho f hf (heq ▸ he)

/-- Candidates that are healthy at first stay available, as none of their requests ends. -/
theorem available_rounds (hr : Rounds version partition E s₀ given started s)
    (hhealthy : ∀ e ∈ E, (s₀.simulation.monitor.record e).state = .healthy) :
    ∀ e ∈ E, s.simulation.isAvailable e := by
  have hstate : ∀ e ∈ E, (s.simulation.monitor.record e).state = .healthy := by
    induction hr with
    | start => exact hhealthy
    | ask _ _ _ hs ih =>
      intro e he
      rw [record_step_of_ne hs nofun, ih e he]
    | @send _ _ s s' f _ _ _ hs ih =>
      -- a start takes a slot and leaves the judgement
      intro e he
      cases hs with
      | simulate h =>
        rw [Simulation.record_step_of_departed h]
        split
        · exact ih e he
        · exact ih e he
    | @other _ _ s s' o _ hs ho ih =>
      intro e he
      rw [record_step_of_ne hs ?_, ih e he]
      intro f hf heq
      exact ho f hf (heq ▸ he)
  intro e he
  rw [Simulation.isAvailable, Monitor.isAvailable_eq]
  exact HealthRecord.isAvailable_of_healthy (hstate e he) _ _

/-! ### Requests to all replicas -/

/-- The requests that a store sends to the replicas that are left are the sends of a round. -/
theorem rounds_startEach {rest : List Endpoint}
    (hr : Rounds version partition E s₀ given started s) (hgiven : given = started ++ rest)
    (hnodup : given.Nodup) (hcalm : s.simulation.Unhurried E) (hrest : ∀ e ∈ rest, e ∈ E)
    (stem : String) (k : ℕ) :
    let s' := ((rest.zipIdx k).foldlM (fun (s : Store) (e, i) =>
      s.simulate (·.start (some (replicaLabel stem i)) e)) s).value
    Rounds version partition E s₀ given given s' ∧
      ∃ t, s' = { s with simulation := t } ∧ t.Unhurried E := by
  induction rest generalizing started s k with
  | nil =>
    rw [List.append_nil] at hgiven
    exact ⟨hgiven ▸ hr, s.simulation, rfl, hcalm⟩
  | cons e rest ih =>
    intro s'
    have he := hrest e List.mem_cons_self
    have hmem : e ∈ given := by simp [hgiven]
    have hnew : e ∉ started := by
      intro hstarted
      rw [hgiven, List.nodup_append] at hnodup
      exact hnodup.2.2 e hstarted e List.mem_cons_self rfl
    -- the first request is one send
    have hstart := hcalm.value_start he (some (replicaLabel stem k))
    have hsent := hr.send hmem hnew
      (Step.simulate (Simulation.Step.depart s.simulation (some (replicaLabel stem k)) e))
    have hleft : given = started ++ [e] ++ rest := by simp [hgiven]
    have hall := ih hsent hleft (hcalm.depart he _)
      (fun x hx => hrest x (List.mem_cons_of_mem e hx)) (k + 1)
    have hs' : s' = ((rest.zipIdx (k + 1)).foldlM (fun (s : Store) (e, i) =>
        s.simulate (·.start (some (replicaLabel stem i)) e))
        { s with simulation :=
          (s.simulation.depart (some (replicaLabel stem k)) e).value }).value := by
      rw [← hstart]
      rfl
    rw [hs']
    exact hall

/-- A store in which a round for `E` may begin that takes some time. -/
structure Ready (s : Store) (version : UInt32) (partition : PartitionId) (E : Set Endpoint) :
    Prop extends Offers s version partition E where
  /-- Requests to the candidates do not end at once. -/
  unhurried : s.simulation.Unhurried E

/-- **Asking for replicas and sending a request to each is one round**, and the next may begin. -/
theorem rounds_startReplicas (hr : Rounds version partition E s₀ given started s)
    (hdone : started.Perm given) (hs : s.Ready version partition E)
    (hhealthy : ∀ e ∈ E, (s₀.simulation.monitor.record e).state = .healthy) (stem : String)
    (requestId : UInt64) (count : ℕ) :
    ∃ replicas, (s.startReplicas stem requestId version partition count).value.1 = .ok replicas ∧
      let s' := (s.startReplicas stem requestId version partition count).value.2
      Rounds version partition E s₀ replicas replicas s' ∧ s'.Ready version partition E := by
  obtain ⟨cs, hcs, hmem⟩ := hs.candidates
  obtain ⟨sink, hvalue⟩ := exists_value_replicas hcs requestId count
  have hasked := hr.ask hdone hs.toOffers (Step.ask hvalue)
  set replicas := s.selector.select s.simulation.signal requestId cs count with hreplicas
  have hnodup : replicas.Nodup := Selector.nodup_select ..
  -- replicas are candidates, and these are the instances in E
  have hsubset : ∀ e ∈ replicas, e ∈ E := by
    intro e he
    have havailable := Selector.mem_availableCandidates_of_mem_select he
    exact (hmem e).mp (mem_availableCandidates.mp havailable).1
  obtain ⟨hsent, t, ht, hcalm⟩ := rounds_startEach hasked rfl hnodup
    ⟨hs.unhurried.settled, hs.unhurried.timeout, hs.unhurried.latency⟩ hsubset stem 0
  have hstore : (s.startReplicas stem requestId version partition count).value =
      (.ok replicas, { s with
        selector := s.selector.next s.simulation.signal cs count, simulation := t }) := by
    simp only [startReplicas, Logged.value_bind, hvalue]
    exact congrArg _ ht
  have hsent' := ht ▸ hsent
  rw [hstore]
  exact ⟨replicas, rfl, hsent', ⟨⟨cs, hcs, hmem⟩, available_rounds hsent' hhealthy⟩, hcalm⟩

/-- A round as it is asked for: the names of its requests, the request that the replicas are
for, and how many of them. -/
structure Round where
  /-- What the names of the requests begin with. -/
  stem : String
  /-- The request. -/
  requestId : UInt64
  /-- How many replicas it asks for. -/
  count : ℕ

/-- Asking for the replicas of a round and sending a request to each. -/
def Round.action (version : UInt32) (partition : PartitionId) (r : Round) : Action :=
  .startReplicas r.stem r.requestId version partition r.count

/-- Rounds that are asked for one after another are rounds. -/
theorem exists_rounds_run (hr : Rounds version partition E s₀ given started s)
    (hdone : started.Perm given) (hs : s.Ready version partition E)
    (hhealthy : ∀ e ∈ E, (s₀.simulation.monitor.record e).state = .healthy) (rs : List Round) :
    ∃ given' started', started'.Perm given' ∧
      Rounds version partition E s₀ given' started'
        (s.run (rs.map (Round.action version partition))).value := by
  induction rs generalizing given started s with
  | nil => exact ⟨given, started, hdone, hr⟩
  | cons r rest ih =>
    obtain ⟨replicas, -, hround, hready⟩ :=
      rounds_startReplicas hr hdone hs hhealthy r.stem r.requestId r.count
    exact ih hround (List.Perm.refl replicas) hready

/-- **However many rounds are asked for one after another, loads stay balanced.** -/
theorem balanced_run (hs : s.Ready version partition E)
    (hhealthy : ∀ e ∈ E, (s.simulation.monitor.record e).state = .healthy)
    (hstrategy : s.selector.strategy = .leastLoaded) (hbalanced : s.Balanced E)
    (rs : List Round) :
    (s.run (rs.map (Round.action version partition))).value.Balanced E := by
  obtain ⟨given, started, hdone, hr⟩ :=
    exists_rounds_run Rounds.start (List.Perm.refl []) hs hhealthy rs
  exact (halfway_rounds hr hstrategy hbalanced).balanced_of_perm hdone

/-- **Loads stay balanced in the closed loop.**  However many rounds there are, whatever they
ask for and whatever happens to other instances meanwhile, the numbers of requests in flight
differ by at most one after every round, and after every single start of a round that starts
its requests in the order of the list that it was given. -/
theorem rounds_balanced (hr : Rounds version partition E s₀ given started s)
    (hstrategy : s₀.selector.strategy = .leastLoaded) (hbalanced : s₀.Balanced E) :
    (started.Perm given → s.Balanced E) ∧ (started <+: given → s.Balanced E) := by
  have hhalfway := halfway_rounds hr hstrategy hbalanced
  exact ⟨hhalfway.balanced_of_perm, hhalfway.balanced_of_prefix⟩

/-- The second of two rounds takes what is left of the lowest level and goes on with the next. -/
theorem rounds_balanced_of_two_rounds :
    let ws : List Registry.Write :=
      [.set "store_v1" (.ofEntries [(0, [1]), (1, [1]), (2, [1]), (3, [1])])]
    let slow : Behaviour := { latency := .ofMillis 5 }
    let network : Network := { behaviours := .ofList [("a", slow), ("b", slow), ("c", slow)] }
    let s₀ : Store :=
      { name := "store", datasets := "store", registry := Registry.applyAll ∅ ws
        book := .ofPairs [(0, "a"), (1, "b"), (2, "c"), (3, "a")]
        selector := ⟨.leastLoaded, 0⟩
        simulation :=
          ((Simulation.fresh {} network .discarding).perform (.start "earlier" "a")).value }
    let rounds : List Round := [⟨"first", 1, 1⟩, ⟨"second", 2, 2⟩]
    let s := (s₀.run (rounds.map (Round.action 1 1))).value
    let E : Set Endpoint := {"a", "b", "c"}
    s₀.Balanced E ∧ (∃ first, (s₀.replicas 1 1 1 1).value.1 = .ok first ∧ first.length = 1) ∧
      ∃ given started, started.Perm given ∧ Rounds 1 1 E s₀ given started s ∧ s.Balanced E := by
  intro ws slow network s₀ rounds s E
  have hmem : ∀ e, e ∈ ["a", "b", "c", "a"] ↔ e ∈ E := by
    intro e
    simp [E]
    tauto
  have hcs : (s₀.candidates 1 1).value = .ok ["a", "b", "c", "a"] := by decide +kernel
  have hbalanced : s₀.Balanced E := by
    rintro x (rfl | rfl | rfl) y (rfl | rfl | rfl) <;> decide +kernel
  have hhealthy : ∀ e ∈ E, (s₀.simulation.monitor.record e).state = .healthy := by
    rintro e (rfl | rfl | rfl) <;> decide +kernel
  have hready : s₀.Ready 1 1 E := by
    have havailable : ∀ e ∈ E, s₀.simulation.isAvailable e := by
      rintro e (rfl | rfl | rfl) <;> decide +kernel
    have hsettled : ∀ f ∈ s₀.simulation.flights, s₀.simulation.clock < f.endsAt := by
      decide +kernel
    refine ⟨⟨⟨_, hcs, hmem⟩, havailable⟩, hsettled, by decide +kernel, ?_⟩
    rintro e (rfl | rfl | rfl) <;> decide +kernel
  obtain ⟨given, started, hdone, hr⟩ :=
    exists_rounds_run Rounds.start (List.Perm.refl _) hready hhealthy rounds
  refine ⟨hbalanced, ?_, given, started, hdone, hr, (rounds_balanced hr rfl hbalanced).1 hdone⟩
  obtain ⟨sink, hvalue⟩ := exists_value_replicas hcs 1 1
  rw [hvalue]
  refine ⟨_, rfl, (Selector.length_select ..).trans ?_⟩
  decide +kernel

end Store
end PartitionRouting
