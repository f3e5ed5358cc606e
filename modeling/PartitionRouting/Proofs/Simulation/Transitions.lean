import PartitionRouting.Proofs.Simulation.Accounting
import PartitionRouting.Proofs.Simulation.Judgement
import PartitionRouting.Proofs.Simulation.Log

/-!
# Every change of judgement is told once

When the judgement of an instance changes, the change is counted and reported.  The two
kinds of change alternate, so the counters tell the present judgement.  A change to
unhealthy is paid for by the failures in a row that led to it, which no other change can
use; a change back is paid for by the success that led to it.

## Main definitions

* `Event.movedTo` — the report of a change.
* `Tally.Balances` — how the counters of an instance agree with its health record.
* `Announced` — every change to unhealthy is reported right after what it was due to.
* `Simulation.Told` — what the counters and a log tell of the changes.

## Main results

* `Event.eq_moved_iff` — the level and the sentence of a report tell what changed.
* `Station.balances_move` — a step keeps the agreement up.
* `Simulation.announced_course` — every change to unhealthy is announced.
* `Simulation.transitions_told` — **every change of judgement is counted and reported once,
  and paid for.**
-/

namespace PartitionRouting

open Std Simulation

/-! ### Reports of changes -/

namespace Event

/-- The report that the judgement of an instance changed to a state. -/
def movedTo (e : Endpoint) : HealthState → Event
  | .healthy => .moved e .unhealthy .healthy
  | .unhealthy => .moved e .healthy .unhealthy

/-- Whether an event reports a change. -/
def isMove : Event → Bool
  | moved _ _ _ => true
  | _ => false

theorem movedTo_inj {e a : Endpoint} {c d : HealthState} :
    movedTo e c = movedTo a d ↔ e = a ∧ c = d := by
  cases c <;> cases d <;> simp [movedTo]

theorem isMove_movedTo (e : Endpoint) (c : HealthState) : (movedTo e c).isMove = true := by
  cases c <;> rfl

/-- The end of the sentence that reports a change. -/
def moveTail (b c : HealthState) : List Char :=
  (" moved from " ++ b.label ++ " to " ++ c.label).toList

theorem text_moved (e : Endpoint) (b c : HealthState) :
    (moved e b c).text =
      "instance " ++ e ++ (" moved from " ++ b.label ++ " to " ++ c.label) := by
  have htext : (moved e b c).text =
      "instance " ++ e ++ " moved from " ++ b.label ++ " to " ++ c.label := rfl
  rw [htext]
  simp only [String.append_assoc]

theorem toList_text_moved (e : Endpoint) (b c : HealthState) :
    (moved e b c).text.toList = "instance ".toList ++ (e.toList ++ moveTail b c) := by
  rw [text_moved, moveTail, String.toList_append, String.toList_append, List.append_assoc]

theorem le_length_moveTail (b c : HealthState) : 30 ≤ (moveTail b c).reverse.length := by
  cases b <;> cases c <;> decide +kernel

/-- The last thirty characters of the sentence tell the change. -/
theorem moveTail_inj {b c b' c' : HealthState}
    (h : (moveTail b c).reverse.take 30 = (moveTail b' c').reverse.take 30) :
    b = b' ∧ c = c' := by
  cases b <;> cases c <;> cases b' <;> cases c' <;>
    first
    | exact ⟨rfl, rfl⟩
    | exact absurd h (by decide +kernel)

/-- The sentences of different changes differ, whatever the instances are called. -/
theorem text_moved_inj {e a : Endpoint} {b c b' c' : HealthState}
    (h : (moved e b c).text = (moved a b' c').text) : e = a ∧ b = b' ∧ c = c' := by
  have hchars := congrArg String.toList h
  rw [toList_text_moved, toList_text_moved] at hchars
  have htails := List.append_cancel_left hchars
  have hlast := congrArg (fun l => l.reverse.take 30) htails
  simp only [List.reverse_append, List.take_append_of_le_length (le_length_moveTail _ _)] at hlast
  obtain ⟨rfl, rfl⟩ := moveTail_inj hlast
  exact ⟨String.toList_injective (List.append_cancel_right htails), rfl, rfl⟩

theorem text_probing_ne (a e : Endpoint) (b c : HealthState) :
    (probing a).text ≠ (moved e b c).text := by
  intro h
  have htext : (probing a).text = "probing unhealthy instance " ++ a := rfl
  have hfirst := congrArg (fun s => s.toList.take 1) h
  simp only [toList_text_moved, htext, String.toList_append] at hfirst
  rw [List.take_append_of_le_length (by decide +kernel),
    List.take_append_of_le_length (by decide +kernel)] at hfirst
  exact absurd hfirst (by decide +kernel)

/-- **The level and the sentence of the report of a change tell what changed.** -/
theorem eq_moved_iff {x : Event} {e : Endpoint} {b c : HealthState} :
    x.level = .info ∧ x.text = (moved e b c).text ↔ x = moved e b c := by
  constructor
  · rintro ⟨hlevel, htext⟩
    cases x with
    | moved a b' c' =>
      obtain ⟨rfl, rfl, rfl⟩ := text_moved_inj htext
      rfl
    | probing a => exact absurd htext (text_probing_ne a e b c)
    | _ => exact absurd hlevel nofun
  · rintro rfl
    exact ⟨rfl, rfl⟩

end Event

/-- **Every change to unhealthy is announced**: right before it, the log says that there were
`limit` failures in a row. -/
def Announced (limit : Nat) (log : List Event) : Prop :=
  ∀ before e after, log = before ++ .moved e .healthy .unhealthy :: after →
    ∃ before', before = before' ++ [.markedUnhealthy e limit]

section Announced

variable {limit : Nat} {log log' : List Event}

theorem announced_of_forall (h : ∀ x ∈ log, x.isMove = false) : Announced limit log := by
  rintro before e after rfl
  have hmove := h (.moved e .healthy .unhealthy) (by simp)
  contradiction

theorem announced_append (h : Announced limit log) (h' : Announced limit log') :
    Announced limit (log ++ log') := by
  intro before e after heq
  rcases List.append_eq_append_iff.mp heq with ⟨rest, rfl, hlog'⟩ | ⟨rest, hlog, hrest⟩
  · obtain ⟨before', rfl⟩ := h' rest e after hlog'
    exact ⟨log ++ before', (List.append_assoc ..).symm⟩
  · cases rest with
    | nil =>
      -- the change would come first in the second log, where nothing announces it
      obtain ⟨before', hnil⟩ := h' [] e after hrest.symm
      simp at hnil
    | cons x rest =>
      obtain ⟨rfl, -⟩ := List.cons.inj hrest
      exact h before e rest hlog

theorem announced_pair (limit : Nat) (e : Endpoint) :
    Announced limit [.markedUnhealthy e limit, .moved e .healthy .unhealthy] := by
  intro before a after heq
  match before with
  | [] => simp at heq
  | [x] =>
    simp only [List.singleton_append, List.cons.injEq, Event.moved.injEq] at heq
    obtain ⟨rfl, ⟨rfl, -, -⟩, -⟩ := heq
    exact ⟨[], rfl⟩
  | x :: y :: rest => simp at heq

end Announced

theorem Ending.isMove_of_mem_events {e : Endpoint} {x : Event} (y : Ending)
    (hx : x ∈ y.events e) : x.isMove = false := by
  cases y with
  | answered code =>
    rw [List.mem_singleton.mp hx]
    rfl
  | broken cause =>
    rcases List.mem_cons.mp hx with rfl | hx
    · rfl
    · rw [List.mem_singleton.mp hx]
      rfl
  | timedOut limit =>
    rw [List.mem_singleton.mp hx]
    rfl

/-- What does not report a change does not count. -/
theorem count_movedTo_eq_zero {log : List Event} (h : ∀ x ∈ log, x.isMove = false)
    (e : Endpoint) (c : HealthState) : log.count (.movedTo e c) = 0 := by
  refine List.count_eq_zero.mpr fun hmem => ?_
  have hmove := h _ hmem
  rw [Event.isMove_movedTo] at hmove
  contradiction

/-! ### Verdicts -/

namespace HealthRecord

theorem moveTo?_eq_some_iff {r after : HealthRecord} {c : HealthState} :
    r.moveTo? after = some c ↔ r.state ≠ after.state ∧ after.state = c := by
  rw [moveTo?]
  split
  · next h => simp [h]
  · next h => simp [h]

/-- An instance is unhealthy if and only if it failed too often in a row, and once in any
case. -/
def Consistent (r : HealthRecord) (threshold : Nat) : Prop :=
  r.state = .unhealthy ↔ max 1 threshold ≤ r.failures

/-- An instance becomes unhealthy with the failure that is one too many, and no later one. -/
theorem failures_of_moveTo? {r : HealthRecord} {threshold now : Nat} {v : Verdict}
    (hr : r.Consistent threshold)
    (hmoved : r.moveTo? (r.judge threshold now v) = some .unhealthy) :
    (r.judge threshold now v).failures = max 1 threshold := by
  obtain ⟨hne, hstate⟩ := moveTo?_eq_some_iff.mp hmoved
  rw [hstate] at hne
  have hbelow : ¬max 1 threshold ≤ r.failures := fun hle => hne (hr.mpr hle)
  cases v with
  | success => contradiction
  | neutral => contradiction
  | failure =>
    have hfailures : (r.judge threshold now .failure).failures = r.failures + 1 := rfl
    by_cases hreached : threshold ≤ r.failures + 1
    · omega
    · have hsame : (r.judge threshold now .failure).state = r.state := if_neg hreached
      exact absurd (hsame.symm.trans hstate) hne

end HealthRecord

namespace Monitor

/-- A verdict is reported if it changes the judgement of the instance. -/
theorem count_movedTo_events_judge (m : Monitor) (now : Nat) (e a : Endpoint) (v : Verdict)
    (c : HealthState) :
    (m.judge now e v).events.count (.movedTo a c) =
      if a = e ∧ (m.judge now e v).value.1 = some c then 1 else 0 := by
  let after := (m.record e).judge m.settings.threshold now v
  have hevents : (m.judge now e v).events =
      (m.judge now e v).value.1.elim [] (moveEvents e after) := rfl
  rw [hevents]
  cases (m.judge now e v).value.1 with
  | none => simp
  | some d =>
    have hreport : Event.movedTo e d = .movedTo a c ↔ a = e ∧ some d = some c := by
      rw [Event.movedTo_inj, Option.some.injEq, eq_comm]
    cases d with
    | healthy =>
      have honly : moveEvents e after .healthy = [.movedTo e .healthy] := rfl
      rw [Option.elim_some, honly, List.count_singleton]
      simp only [beq_iff_eq, hreport]
    | unhealthy =>
      -- the warning before the report is no report itself
      have hpair : moveEvents e after .unhealthy =
          [.markedUnhealthy e after.failures, .movedTo e .unhealthy] := rfl
      have hmarked : Event.markedUnhealthy e after.failures ≠ .movedTo a c := by
        cases c <;> exact nofun
      rw [Option.elim_some, hpair, List.count_cons_of_ne hmarked, List.count_singleton]
      simp only [beq_iff_eq, hreport]

theorem announced_judge {m : Monitor} {now : Nat} {e : Endpoint} {v : Verdict}
    (hr : (m.record e).Consistent m.settings.threshold) :
    Announced (max 1 m.settings.threshold) (m.judge now e v).events := by
  let after := (m.record e).judge m.settings.threshold now v
  have hevents : (m.judge now e v).events =
      ((m.record e).moveTo? after).elim [] (moveEvents e after) := rfl
  rw [hevents]
  cases hmoved : (m.record e).moveTo? after with
  | none => exact announced_of_forall nofun
  | some d =>
    cases d with
    | healthy =>
      -- there is nothing to announce, as the instance moves back to healthy
      intro before a rest heq
      have hmem : Event.moved a .healthy .unhealthy ∈ moveEvents e after .healthy := by
        rw [Option.elim_some] at heq
        simp [heq]
      simp [moveEvents] at hmem
    | unhealthy =>
      have hfailures : after.failures = max 1 m.settings.threshold :=
        HealthRecord.failures_of_moveTo? hr hmoved
      rw [← hfailures]
      exact announced_pair after.failures e

end Monitor

/-! ### Counters -/

namespace Ending

theorem verdict_of_measure (x : Ending) :
    x.verdict =
      match x.measure with
      | .outcome o => o.verdict
      | _ => .failure := by
  cases x <;> rfl

/-- A success is counted as a normal answer. -/
theorem measured_as_success (x : Ending) :
    (if x.measure = .outcome .healthy then 1 else 0) =
      if x.verdict = .success then 1 else 0 := by
  have hends := x.measure_mem_ends
  rw [verdict_of_measure]
  generalize x.measure = m at hends ⊢
  rcases Measure.mem_ends_iff.mp hends with ⟨o, rfl⟩ | rfl
  · cases o <;> rfl
  · rfl

/-- A failure is counted as one of the errors or as abandoned. -/
theorem measured_as_failure (x : Ending) :
    (if x.measure = .outcome .internalServerError then 1 else 0) +
      (if x.measure = .outcome .serviceUnavailable then 1 else 0) +
      (if x.measure = .outcome .otherError then 1 else 0) +
      (if x.measure = .leaked then 1 else 0) = if x.verdict = .failure then 1 else 0 := by
  have hends := x.measure_mem_ends
  rw [verdict_of_measure]
  generalize x.measure = m at hends ⊢
  rcases Measure.mem_ends_iff.mp hends with ⟨o, rfl⟩ | rfl
  · cases o <;> rfl
  · rfl

end Ending

namespace HealthRecord

/-- The changes to unhealthy that were not undone. -/
def down (r : HealthRecord) : Nat := if r.state = .unhealthy then 1 else 0

/-- The failures in a row that have not made the instance unhealthy yet. -/
def unused (r : HealthRecord) : Nat := if r.state = .unhealthy then 0 else r.failures

/-- How often a record changes to a state when it becomes another. -/
def changes (r after : HealthRecord) (c : HealthState) : Nat :=
  if r.moveTo? after = some c then 1 else 0

theorem changes_of_state_eq {r after : HealthRecord} (h : r.state = after.state)
    (c : HealthState) : r.changes after c = 0 := by
  rw [changes, moveTo?, if_pos h, if_neg nofun]

theorem changes_le_one (r after : HealthRecord) (c : HealthState) : r.changes after c ≤ 1 := by
  rw [changes]
  split <;> omega

/-- A change to unhealthy is one more that was not undone, and a change back one less. -/
theorem down_add_changes (r after : HealthRecord) :
    after.down + r.changes after .healthy = r.down + r.changes after .unhealthy := by
  rw [changes, changes, moveTo?, down, down]
  cases r.state <;> cases after.state <;> rfl

/-- A failure makes no instance healthy. -/
theorem state_of_judge_failure {r : HealthRecord} {threshold now : Nat}
    (h : (r.judge threshold now .failure).state = .healthy) : r.state = .healthy := by
  simp only [judge, fail] at h
  split at h
  · contradiction
  · exact h

/-- **The failures in a row pay for a change to unhealthy**: it takes as many as are too many,
and they are used up. -/
theorem changes_add_unused_le {r : HealthRecord} {threshold : Nat} (hr : r.Consistent threshold)
    (now : Nat) (v : Verdict) :
    max 1 threshold * r.changes (r.judge threshold now v) .unhealthy +
      (r.judge threshold now v).unused ≤ r.unused + if v = .failure then 1 else 0 := by
  by_cases hmoved : r.moveTo? (r.judge threshold now v) = some .unhealthy
  -- the change uses up all failures since the last success
  · obtain ⟨hne, hstate⟩ := moveTo?_eq_some_iff.mp hmoved
    rw [hstate] at hne
    have hfailures := failures_of_moveTo? hr hmoved
    have hunused : (r.judge threshold now v).unused = 0 := if_pos hstate
    have hunused' : r.unused = r.failures := if_neg hne
    rw [changes, if_pos hmoved, hunused, hunused', Nat.mul_one, Nat.add_zero, ← hfailures]
    cases v with
    | success => exact Nat.zero_le _
    | failure => exact Nat.le_refl _
    | neutral => exact Nat.le_add_right _ _
  · rw [changes, if_neg hmoved, Nat.mul_zero, Nat.zero_add]
    cases v with
    | success => exact Nat.zero_le _
    | neutral => exact Nat.le_add_right _ _
    | failure =>
      cases hstate : (r.judge threshold now .failure).state with
      | unhealthy =>
        rw [unused, if_pos hstate]
        exact Nat.zero_le _
      | healthy =>
        -- a failure that is not too many is kept for later
        have hbefore := state_of_judge_failure hstate
        have hunused : (r.judge threshold now .failure).unused = r.failures + 1 :=
          if_neg (by rw [hstate]; exact nofun)
        have hunused' : r.unused = r.failures := if_neg (by rw [hbefore]; exact nofun)
        rw [hunused, hunused']
        exact Nat.le_refl _

/-- A change back takes a success. -/
theorem changes_healthy_le (r : HealthRecord) (threshold now : Nat) (v : Verdict) :
    r.changes (r.judge threshold now v) .healthy ≤ if v = .success then 1 else 0 := by
  cases v with
  | success => exact changes_le_one r _ .healthy
  | neutral => exact Nat.le_of_eq (changes_of_state_eq rfl .healthy)
  | failure =>
    rw [changes, if_neg fun hmoved => ?_]
    · exact Nat.zero_le _
    · obtain ⟨hne, hstate⟩ := moveTo?_eq_some_iff.mp hmoved
      exact hne ((state_of_judge_failure hstate).trans hstate.symm)

end HealthRecord

namespace Tally

/-- The ends that speak against the instance. -/
def failed (t : Tally) : Nat :=
  t.internalServerError + t.serviceUnavailable + t.otherError + t.leaked

/-- **The counters of an instance agree with its health record.** -/
structure Balances (t : Tally) (threshold : Nat) (r : HealthRecord) : Prop where
  /-- The changes to unhealthy and back alternate. -/
  alternate : t.toUnhealthy = t.toHealthy + r.down
  /-- The failures pay for the changes to unhealthy, and those that are not used yet are left. -/
  paid : max 1 threshold * t.toUnhealthy + r.unused ≤ t.failed
  /-- The successes pay for the changes back. -/
  recovered : t.toHealthy ≤ t.healthy

/-- A verdict that is counted, together with the change that it makes, keeps the agreement
up. -/
theorem balances_judge {t t' : Tally} {threshold now : Nat} {r : HealthRecord} {v : Verdict}
    (hr : r.Consistent threshold) (ht : t.Balances threshold r)
    (hmoved : ∀ c, t'.count (.movedTo c) =
      t.count (.movedTo c) + r.changes (r.judge threshold now v) c)
    (hhealthy : t'.healthy = t.healthy + if v = .success then 1 else 0)
    (hfailed : t'.failed = t.failed + if v = .failure then 1 else 0) :
    t'.Balances threshold (r.judge threshold now v) := by
  obtain ⟨halternate, hpaid, hrecovered⟩ := ht
  have hfall : t'.toUnhealthy = t.toUnhealthy + _ := hmoved .unhealthy
  have hback : t'.toHealthy = t.toHealthy + _ := hmoved .healthy
  -- each change is paid for by what the record has put aside
  refine ⟨?_, ?_, ?_⟩
  · have hdown := r.down_add_changes (r.judge threshold now v)
    omega
  · have hused := HealthRecord.changes_add_unused_le hr now v
    rw [hfall, hfailed, Nat.mul_add]
    omega
  · have hsuccess := r.changes_healthy_le threshold now v
    omega

end Tally

/-! ### Moments -/

namespace Simulation

variable {s : Simulation} {f : Flight} {found : Ending}

/-- No start is reported as a change. -/
theorem isMove_of_mem_events_depart {label : Option String} {e : Endpoint} {x : Event}
    (hx : x ∈ (s.depart label e).events) : x.isMove = false := by
  rcases mem_events_depart hx with rfl | rfl | rfl <;> rfl

theorem isMove_of_mem_events_land_of_lost (h : s.countable f = false) {x : Event}
    (hx : x ∈ (s.land f found).events) : x.isMove = false := by
  rw [eq_of_mem_events_land_of_lost h hx]
  rfl

/-- An end that is accounted for is reported as a change only if its verdict makes one. -/
theorem exists_quiet_events_land (h : s.countable f) :
    ∃ before after,
      (s.land f found).events = before ++
        (s.monitor.judge s.clock f.endpoint found.verdict).events ++ after ∧
      (∀ x ∈ before, x.isMove = false) ∧ ∀ x ∈ after, x.isMove = false := by
  obtain ⟨before, after, hevents, hbefore, hafter⟩ := exists_events_land h
  refine ⟨before, after, hevents, fun x hx => ?_, fun x hx => ?_⟩
  · rcases hbefore x hx with rfl | hx
    · rfl
    · exact found.isMove_of_mem_events hx
  · rw [hafter x hx]
    rfl

/-- The end of a request is reported as a change once if it is accounted for and changes the
judgement of its instance, and not at all otherwise. -/
theorem count_movedTo_events_land (s : Simulation) (f : Flight) (found : Ending) (a : Endpoint)
    (c : HealthState) :
    (s.land f found).events.count (.movedTo a c) =
      if s.countable f ∧ a = f.endpoint ∧ s.movedBy f found = some c then 1 else 0 := by
  cases h : s.countable f with
  | false =>
    rw [if_neg (by simp)]
    exact count_movedTo_eq_zero (fun x hx => isMove_of_mem_events_land_of_lost h hx) a c
  | true =>
    obtain ⟨before, after, hevents, hbefore, hafter⟩ := exists_quiet_events_land h
    rw [hevents, List.count_append, List.count_append, count_movedTo_eq_zero hbefore,
      count_movedTo_eq_zero hafter, Monitor.count_movedTo_events_judge]
    simp [movedBy]

/-- So it is with the poll at the end of a request. -/
theorem count_movedTo_pollEvents (hclock : s.clock = f.endsAt) (a : Endpoint) (c : HealthState) :
    (s.pollEvents f).count (.movedTo a c) =
      if (s.without f).countable f ∧ a = f.endpoint ∧ (s.without f).movedBy f f.ending = some c
      then 1 else 0 := by
  rw [pollEvents_eq (hclock ▸ f.poll_endsAt), count_movedTo_events_land]

theorem announced_land
    (hr : (s.monitor.record f.endpoint).Consistent s.monitor.settings.threshold) :
    Announced (max 1 s.monitor.settings.threshold) (s.land f found).events := by
  cases h : s.countable f with
  | false => exact announced_of_forall fun x hx => isMove_of_mem_events_land_of_lost h hx
  | true =>
    obtain ⟨before, after, hevents, hbefore, hafter⟩ := exists_quiet_events_land h
    rw [hevents]
    refine announced_append (announced_append ?_ ?_) ?_
    · exact announced_of_forall hbefore
    · exact Monitor.announced_judge hr
    · exact announced_of_forall hafter

end Simulation

/-! ### Stations -/

namespace Station

theorem countP_movedTo_measures (st : Station) (threshold : Nat) (f : Flight) (c : HealthState) :
    (st.measures threshold f).countP (· = .movedTo c) =
      st.record.changes (st.judged threshold f) c := by
  have hending : f.ending.measure ≠ .movedTo c := by cases f.ending <;> exact nofun
  rw [measures, List.countP_cons, List.countP_cons, HealthRecord.changes]
  cases st.record.moveTo? (st.judged threshold f) with
  | none => simp [hending]
  | some d => simp [hending]

/-- What is counted when a flight ends besides its time: its verdict, and the change of
judgement that it makes. -/
theorem counts_of_land (st : Station) (threshold : Nat) (f : Flight) (t : Tally) :
    let t' := t.addAll (st.measures threshold f)
    (∀ c, t'.count (.movedTo c) =
      t.count (.movedTo c) + st.record.changes (st.judged threshold f) c) ∧
    (t'.healthy = t.healthy + if f.ending.verdict = .success then 1 else 0) ∧
    t'.failed = t.failed + if f.ending.verdict = .failure then 1 else 0 := by
  intro t'
  have hmoved : ∀ c, t'.count (.movedTo c) =
      t.count (.movedTo c) + st.record.changes (st.judged threshold f) c := by
    intro c
    rw [← countP_movedTo_measures]
    exact t.count_addAll _ nofun
  -- an ending is counted as one of these measures, and four of them are failures
  have hended : ∀ m ∈ Measure.ends, t'.count m =
      t.count m + if f.ending.measure = m then 1 else 0 := fun m hm =>
    st.count_addAll_measures threshold f t hm
  have hhealthy : t'.healthy = t.healthy + _ := hended (.outcome .healthy) (by decide)
  have hinternal : t'.internalServerError = t.internalServerError + _ :=
    hended (.outcome .internalServerError) (by decide)
  have hservice : t'.serviceUnavailable = t.serviceUnavailable + _ :=
    hended (.outcome .serviceUnavailable) (by decide)
  have hother : t'.otherError = t.otherError + _ := hended (.outcome .otherError) (by decide)
  have hleaked : t'.leaked = t.leaked + _ := hended .leaked (by decide)
  have hfailed := f.ending.measured_as_failure
  refine ⟨hmoved, ?_, ?_⟩
  · rw [hhealthy, f.ending.measured_as_success]
  · rw [Tally.failed, hinternal, hservice, hother, hleaked, Tally.failed]
    omega

/-- How often the judgement of `e` changes to a state when something happens. -/
def changes (st : Station) (threshold : Nat) (e : Endpoint) (o : Occurrence) (c : HealthState) :
    Nat :=
  match o with
  | .landed f => if f.endpoint = e then st.record.changes (st.judged threshold f) c else 0
  | _ => 0

theorem changes_of_landed {threshold : Nat} {e : Endpoint} {f : Flight} (he : f.endpoint = e)
    (st : Station) (c : HealthState) :
    st.changes threshold e (.landed f) c = st.record.changes (st.judged threshold f) c :=
  if_pos he

/-- What concerns no request to the instance changes nothing. -/
theorem changes_of_other {e : Endpoint} {o : Occurrence}
    (ho : ∀ f, o.request? = some f → f.endpoint ≠ e) (st : Station) (threshold : Nat)
    (c : HealthState) : st.changes threshold e o c = 0 := by
  cases o with
  | landed f => exact if_neg (ho f rfl)
  | _ => rfl

variable {settings : HealthSettings} {now : Nat} {e : Endpoint} {st st' : Station}
  {o : Occurrence}

/-- **A step keeps the counters of an instance and its health record in agreement**, and
counts the change that it makes. -/
theorem balances_move (hm : Move settings now e st o st')
    (hr : st.record.Consistent settings.threshold) {t : Tally} (htally : t ∈ st.tally)
    (ht : t.Balances settings.threshold st.record) :
    ∃ t' ∈ st'.tally, t'.Balances settings.threshold st'.record ∧
      ∀ c, t'.count (.movedTo c) = t.count (.movedTo c) + st.changes settings.threshold e o c := by
  obtain ⟨halternate, hpaid, hrecovered⟩ := ht
  cases hm with
  | other ho =>
    refine ⟨t, htally, ⟨halternate, hpaid, hrecovered⟩, fun c => ?_⟩
    rw [changes_of_other ho]
    rfl
  | depart he hstart hprobe =>
    refine ⟨t.add .request, Option.mem_map_of_mem _ htally, ⟨halternate, hpaid, hrecovered⟩, ?_⟩
    intro c
    cases c <;> rfl
  | @land f he hf hdue haccepts =>
    obtain ⟨hmoved, hhealthy, hfailed⟩ := st.counts_of_land settings.threshold f t
    obtain ⟨halternate, hpaid, hrecovered⟩ := Tally.balances_judge hr
      ⟨halternate, hpaid, hrecovered⟩ hmoved hhealthy hfailed
    refine ⟨_, Option.mem_map_of_mem _ htally, ⟨halternate, hpaid, hrecovered⟩, fun c => ?_⟩
    rw [changes_of_landed he]
    exact hmoved c
  | lose he hf hdue hrefuses =>
    exact ⟨t, htally, ⟨halternate, hpaid, hrecovered⟩, fun c => rfl⟩
  | drop he hf => exact ⟨t, htally, ⟨halternate, hpaid, hrecovered⟩, fun c => rfl⟩

end Station

/-! ### Courses -/

namespace Simulation

variable {settings : HealthSettings} {network : Network} {sink : Sink}
  {behaviours : ExtTreeMap Endpoint Behaviour} {h : History} {s : Simulation} {e : Endpoint}

/-- A moment is reported as the change of judgement that it makes, and as no other. -/
theorem count_movedTo_moment {o : Occurrence} {st' : Station}
    (hm : Station.Move s.monitor.settings s.clock e (s.station e) o st') (c : HealthState) :
    (Moment.events ⟨s, o⟩).count (.movedTo e c) =
      (s.station e).changes s.monitor.settings.threshold e o c := by
  have hdepart : ∀ f : Flight, (Moment.events ⟨s, .departed f⟩).count (.movedTo e c) = 0 := by
    intro f
    exact count_movedTo_eq_zero (fun x hx => isMove_of_mem_events_depart hx) e c
  have hother : ∀ f : Flight, f.endpoint ≠ e → (s.pollEvents f).count (.movedTo e c) = 0 := by
    intro f hf
    refine pollEvents_induction (P := fun l => l.count (.movedTo e c) = 0) rfl fun found => ?_
    rw [count_movedTo_events_land, if_neg fun hland => hf hland.2.1.symm]
  -- only the end of a request to this instance can be a change of its judgement
  cases hm with
  | other ho =>
    rw [Station.changes_of_other ho]
    cases o with
    | departed f => exact hdepart f
    | landed f => exact hother f (ho f rfl)
    | lost f => exact hother f (ho f rfl)
    | _ => rfl
  | depart he hstart hprobe => exact hdepart _
  | @land f he hf hclock haccepts =>
    subst he
    have hcountable : (s.without f).countable f := by
      rw [countable_eq (s := s.without f) hclock]
      exact (s.sink.accepts_measure_iff f.endpoint _).mpr haccepts
    have hmoved : (s.without f).movedBy f f.ending = (s.station f.endpoint).record.moveTo?
        ((s.station f.endpoint).judged s.monitor.settings.threshold f) := by
      rw [movedBy, Station.judged, ← hclock]
      rfl
    rw [Station.changes_of_landed rfl, HealthRecord.changes, ← hmoved]
    refine (count_movedTo_pollEvents hclock f.endpoint c).trans ?_
    simp only [hcountable, true_and]
  | @lose f he hf hclock hrefuses =>
    subst he
    have hlost : (s.without f).countable f = false := by
      rw [countable_eq (s := s.without f) hclock]
      exact (s.sink.refuses_measure_iff f.endpoint _).mpr hrefuses
    refine (count_movedTo_pollEvents hclock f.endpoint c).trans (if_neg ?_)
    rw [hlost]
    exact fun hland => absurd hland.1 Bool.false_ne_true
  | drop he hf => rfl

theorem consistent_course (hc : Course (fresh settings network sink) h s) (e : Endpoint) :
    (s.station e).record.Consistent settings.threshold := (judgedBy_course hc e).unhealthy

/-- The counters of an instance agree with its health record, and its changes of judgement are
reported as often as they are counted. -/
theorem balances_course (hc : Course (fresh settings { behaviours } (.counting {})) h s)
    (e : Endpoint) :
    ∃ t ∈ (s.station e).tally, t.Balances settings.threshold (s.station e).record ∧
      ∀ c, h.events.count (.movedTo e c) = t.count (.movedTo c) := by
  have hfresh := orderly_fresh settings { behaviours } (.counting {})
  refine station_course (P := fun h st => ∃ t ∈ st.tally,
    t.Balances settings.threshold st.record ∧
      ∀ c, h.events.count (.movedTo e c) = t.count (.movedTo c)) hfresh ?_ ?_ hc
  · refine ⟨{}, rfl, ⟨rfl, Nat.le_refl _, Nat.le_refl _⟩, fun c => ?_⟩
    cases c <;> rfl
  · rintro h s o st' hc hm ⟨t, htally, ht, hcount⟩
    obtain ⟨t', htally', ht', hcount'⟩ :=
      Station.balances_move hm (consistent_course hc e) htally ht
    refine ⟨t', htally', ht', fun c => ?_⟩
    rw [← settings_course hc] at hm
    rw [History.events_concat, List.count_append, hcount, hcount', count_movedTo_moment hm,
      settings_course hc]

/-- **Every change to unhealthy is announced** by the failures in a row that led to it. -/
theorem announced_course (hc : Course (fresh settings network sink) h s) :
    Announced (max 1 settings.threshold) h.events := by
  induction hc with
  | start => exact announced_of_forall nofun
  | @step h s s' o hc hstep ih =>
    rw [History.events_concat]
    refine announced_append ih ?_
    have hsettings : s.monitor.settings = settings := settings_course hc
    have hpoll : ∀ f : Flight, Announced (max 1 settings.threshold) (s.pollEvents f) := by
      intro f
      refine pollEvents_induction (announced_of_forall nofun) fun found => ?_
      rw [← hsettings]
      refine announced_land (s := s.without f) ?_
      rw [← hsettings] at hc
      exact consistent_course hc f.endpoint
    -- of the steps only the end of a request is reported as a change
    cases hstep with
    | depart label e => exact announced_of_forall fun x hx => isMove_of_mem_events_depart hx
    | @land f x hf hfound hcountable => exact hpoll f
    | @lose f x hf hfound hlost => exact hpoll f
    | drop hf => exact announced_of_forall nofun
    | wait hclock hsleep => exact announced_of_forall nofun
    | change e c => exact announced_of_forall nofun

/-- **What the counters and a log tell of the changes of judgement of `e`.** -/
structure Told (s : Simulation) (log : List Event) (e : Endpoint) : Prop where
  /-- The two kinds of change alternate, and the counters tell the present judgement. -/
  alternate : (s.sink.counters.tally e).toUnhealthy =
    (s.sink.counters.tally e).toHealthy +
      if s.monitor.state? e = some .unhealthy then 1 else 0
  /-- Each change to unhealthy takes failures of its own, as many as are too many. -/
  paid : max 1 s.monitor.settings.threshold * (s.sink.counters.tally e).toUnhealthy ≤
    (s.sink.counters.tally e).internalServerError +
      (s.sink.counters.tally e).serviceUnavailable +
      (s.sink.counters.tally e).otherError + (s.sink.counters.tally e).leaked
  /-- Each change back takes a success of its own. -/
  recovered : (s.sink.counters.tally e).toHealthy ≤ (s.sink.counters.tally e).healthy
  /-- Each change to unhealthy that is counted is reported once. -/
  toUnhealthy : log.countP (fun x => x.level = .info ∧
      x.text = "instance " ++ e ++ " moved from healthy to unhealthy") =
    (s.sink.counters.tally e).toUnhealthy
  /-- Each change back that is counted is reported once. -/
  toHealthy : log.countP (fun x => x.level = .info ∧
      x.text = "instance " ++ e ++ " moved from unhealthy to healthy") =
    (s.sink.counters.tally e).toHealthy
  /-- Right before the report of a change to unhealthy there is a warning that says what led
  to it. -/
  announced : ∀ before x after, log = before ++ x :: after → x.level = .info →
    x.text = "instance " ++ e ++ " moved from healthy to unhealthy" →
    ∃ before' y, before = before' ++ [y] ∧ y.level = .warn ∧
      y.text = "instance " ++ e ++ " marked unhealthy after " ++
        toString (max 1 s.monitor.settings.threshold) ++ " consecutive failures"

/-- An instance that was never contacted has the record of a healthy one. -/
theorem state?_eq_unhealthy_iff (s : Simulation) (e : Endpoint) :
    s.monitor.state? e = some .unhealthy ↔ (s.station e).record.state = .unhealthy := by
  show s.monitor.state? e = _ ↔ (s.monitor.record e).state = _
  rw [Monitor.state?, Monitor.record]
  cases s.monitor.records[e]? with
  | none => simp
  | some r => simp

theorem told_course (hc : Course (fresh settings { behaviours } (.counting {})) h s)
    (e : Endpoint) : Told s h.events e := by
  obtain ⟨t, htally, ⟨halternate, hpaid, hrecovered⟩, hcount⟩ := balances_course hc e
  have hsettings : s.monitor.settings = settings := settings_course hc
  have hcounters : s.sink.counters.tally e = t := tally_counters_of_mem htally
  have hfall : (Event.moved e .healthy .unhealthy).text =
      "instance " ++ e ++ " moved from healthy to unhealthy" := Event.text_moved e _ _
  have hback : (Event.moved e .unhealthy .healthy).text =
      "instance " ++ e ++ " moved from unhealthy to healthy" := Event.text_moved e _ _
  refine ⟨?_, ?_, ?_, ?_, ?_, ?_⟩
  · rw [hcounters, halternate, HealthRecord.down]
    simp only [state?_eq_unhealthy_iff]
  · rw [hcounters, hsettings]
    exact Nat.le_trans (Nat.le_add_right _ _) hpaid
  · rw [hcounters]
    exact hrecovered
  · rw [hcounters, ← hfall]
    simp only [Event.eq_moved_iff]
    exact hcount .unhealthy
  · rw [hcounters, ← hback]
    simp only [Event.eq_moved_iff]
    exact hcount .healthy
  · intro before x after hlog hlevel htext
    rw [← hfall] at htext
    obtain rfl := Event.eq_moved_iff.mp ⟨hlevel, htext⟩
    obtain ⟨before', hbefore⟩ := announced_course hc before e after hlog
    rw [hsettings]
    exact ⟨before', _, hbefore, rfl, rfl⟩

/-- **Every change of judgement is counted and reported once, and paid for.**  Over every
course and over every run, the changes of an instance to unhealthy and back alternate; each
change to unhealthy takes failures of its own, as many as are too many, and each change back
a success of its own; and the log holds one report of each, and right before each change to
unhealthy a warning that says how many failures led to it. -/
theorem transitions_told (settings : HealthSettings) (behaviours : ExtTreeMap Endpoint Behaviour)
    (e : Endpoint) :
    let s₀ := fresh settings { behaviours } (.counting {})
    (∀ {h : History} {s : Simulation}, Course s₀ h s → Told s h.events e) ∧
      ∀ as : List Action, Told (s₀.run as).value (s₀.run as).events e := by
  intro s₀
  refine ⟨fun hc => told_course hc e, fun as => ?_⟩
  rw [← s₀.events_history as]
  exact told_course (course_history (orderly_fresh ..) as) e

/-- Of three failures in a row the last is late and reported as no change; after a success it
takes two failures again. -/
theorem transitions_told_of_second_outage :
    let failing : Behaviour := { status := 503, latency := .ofMillis 5 }
    let s := fresh { unhealthyAfterFailures := 2 } { behaviours := .ofList [("a", failing)] }
      (.counting {})
    let as : List Action := [.start "x" "a", .start "y" "a", .start "z" "a", .advance 10,
      .change "a" (.status 200), .send "a", .change "a" (.faulty true), .send "a", .send "a"]
    Told (s.run as).value (s.history as).events "a" ∧
      ((s.run as).value.sink.counters.tally "a").toUnhealthy = 2 ∧
      ((s.run as).value.sink.counters.tally "a").toHealthy = 1 := by
  intro failing s as
  have hcourse : Course s (s.history as) (s.run as).value := course_history (orderly_fresh ..) as
  obtain ⟨htold, -⟩ := transitions_told { unhealthyAfterFailures := 2 }
    (.ofList [("a", failing)]) "a"
  refine ⟨htold hcourse, ?_, ?_⟩
  · decide +kernel
  · decide +kernel

end Simulation

end PartitionRouting
