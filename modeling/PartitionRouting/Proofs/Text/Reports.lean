import PartitionRouting.Logged

/-!
# Reports of errors

An operator learns of an error from the log.  A report of it is an alarm, that is an event at
one of the two upper levels, and names what the error is about: its dataset, node, partition,
version or endpoint.  What an operation reports is put together from what its parts report, so
that no failure is silent follows part by part.

## Main definitions

* `Text.Within` — a text that stands in another.
* `Event.Alarms`, `RoutingError.subjects`, `Event.Reports` — the upper levels, what an error
  is about, and the alarms that name it.
* `Reported` — a log that tells of an error.
* `Attempt.Candid` — an attempt that ends with the report of its failure, if it fails.

## Main results

* `Event.reports_unknownDataset` and the lemmas around it — which alarm reports which error.
* `Attempt.Candid.andThen` — **candid attempts one after the other are candid.**
-/

namespace PartitionRouting

/-! ### Texts in texts -/

namespace Text

/-- `t` stands in `s`. -/
def Within (t s : String) : Prop := ∃ before after, s = before ++ t ++ after

theorem within_append (start t : String) : Within t (start ++ t) :=
  ⟨start, "", (String.append_empty).symm⟩

theorem Within.append {t s : String} (h : Within t s) (rest : String) :
    Within t (s ++ rest) := by
  obtain ⟨before, after, rfl⟩ := h
  exact ⟨before, after ++ rest, String.append_assoc⟩

theorem Within.prepend {t s : String} (h : Within t s) (start : String) :
    Within t (start ++ s) := by
  obtain ⟨before, after, rfl⟩ := h
  exact ⟨start ++ before, after, by simp only [String.append_assoc]⟩

end Text

open Text

/-! ### Alarms -/

/-- What an error is about: its fields without the reason, as they stand in a sentence. -/
def RoutingError.subjects : RoutingError → List String
  | datasetNotFound d => [d]
  | nodeNotFound n => [toString n.toNat]
  | partitionNotFound d p => [d, toString p.toNat]
  | versionNotFound v => [toString v.toNat]
  | requestFailed e _ => [e]
  | _ => []

namespace Event

/-- An event at one of the two upper levels. -/
def Alarms (x : Event) : Prop := x.level = .error ∨ x.level = .warn

theorem not_alarms_of_debug {x : Event} (h : x.level = .debug) : ¬x.Alarms := by
  rw [Alarms, h]
  simp

/-- An alarm that names what an error is about. -/
def Reports (x : Event) (cause : RoutingError) : Prop :=
  x.Alarms ∧ ∀ t ∈ cause.subjects, Within t x.text

variable {d : String} {n : NodeId} {p : PartitionId} {v : UInt32} {e : Endpoint}
  {cause : RoutingError}

theorem reports_unknownDatasetForNode :
    (unknownDatasetForNode d n).Reports (.datasetNotFound d) := by
  refine ⟨Or.inl rfl, List.forall_mem_singleton.mpr ?_⟩
  exact (((within_append "dataset " d).append _).append _).append _

theorem reports_unknownDataset : (unknownDataset d).Reports (.datasetNotFound d) := by
  refine ⟨Or.inl rfl, List.forall_mem_singleton.mpr ?_⟩
  exact (within_append "dataset " d).append _

theorem reports_unknownNode : (unknownNode n).Reports (.nodeNotFound n) := by
  refine ⟨Or.inl rfl, List.forall_mem_singleton.mpr ?_⟩
  exact (within_append "node " _).append _

theorem reports_unassignedPartition :
    (unassignedPartition d p).Reports (.partitionNotFound d p) := by
  refine ⟨Or.inl rfl, List.forall_mem_cons.mpr ⟨?_, List.forall_mem_singleton.mpr ?_⟩⟩
  · exact (within_append _ d).append _
  · exact (((within_append "partition " _).append _).append _).append _

/-- Version zero is named in so many words. -/
theorem reports_noVersionZero : (noVersionZero d).Reports (.versionNotFound 0) := by
  refine ⟨Or.inl rfl, List.forall_mem_singleton.mpr ?_⟩
  have hzero : Within (toString (0 : UInt32).toNat) " has no version 0, versions start at 1" :=
    ⟨" has no version ", ", versions start at 1", by decide +kernel⟩
  exact hzero.prepend _

theorem reports_emptyDatasetName {reason : String} :
    emptyDatasetName.Reports (.invalidArgument reason) :=
  ⟨Or.inl rfl, List.forall_mem_nil _⟩

theorem reports_transportFailed {reason : String} :
    (transportFailed e cause).Reports (.requestFailed e reason) := by
  refine ⟨Or.inr rfl, List.forall_mem_singleton.mpr ?_⟩
  exact ((within_append "request to instance " e).append _).append _

theorem reports_abandoned {limit : Duration} {reason : String} :
    (abandoned e limit).Reports (.requestFailed e reason) := by
  refine ⟨Or.inr rfl, List.forall_mem_singleton.mpr ?_⟩
  exact (((within_append "request to instance " e).append _).append _).append _

end Event

/-- A log that tells of an error. -/
def Reported (log : List Event) (cause : RoutingError) : Prop := ∃ x ∈ log, x.Reports cause

/-! ### Candid attempts -/

namespace Attempt

variable {α β : Type} {P : Event → Prop} {x : Attempt α}

/-- An attempt that ends with the report of its failure, which nothing alarming comes before,
or succeeds with events of a given kind only. -/
structure Candid (P : Event → Prop) (x : Attempt α) : Prop where
  /-- A failure is reported at the end, and nothing is an alarm before. -/
  failed : ∀ cause, x.value = .error cause → ∃ before report,
    x.events = before ++ [report] ∧ (∀ y ∈ before, ¬y.Alarms) ∧ report.level = .error ∧
      report.Reports cause
  /-- A success gives events of the given kind. -/
  succeeded : ∀ a, x.value = .ok a → ∀ y ∈ x.events, P y

theorem candid_ok (a : α) : (ok a).Candid P where
  failed _ h := nomatch h
  succeeded _ _ := List.forall_mem_nil _

theorem candid_fail {report : Event} {cause : RoutingError} (hlevel : report.level = .error)
    (hreport : report.Reports cause) : (fail report cause : Attempt α).Candid P where
  failed _ h := by
    obtain rfl := Except.error.inj h
    exact ⟨[], report, rfl, List.forall_mem_nil _, hlevel, hreport⟩
  succeeded _ h := nomatch h

theorem candid_ofOption {found : Option α} {report : Event} {cause : RoutingError}
    (hlevel : report.level = .error) (hreport : report.Reports cause) :
    (ofOption found report cause).Candid P := by
  cases found with
  | none => exact candid_fail hlevel hreport
  | some a => exact candid_ok a

theorem candid_reported {a : α} {report : Event} (h : P report) :
    Candid P (⟨.ok a, [report]⟩ : Attempt α) where
  failed _ h := nomatch h
  succeeded _ _ := List.forall_mem_singleton.mpr h

theorem candid_succeed {y : Logged α} (h : ∀ e ∈ y.events, P e) : (succeed y).Candid P where
  failed _ h := nomatch h
  succeeded _ _ := h

theorem andThen_of_ok {a : α} (h : x.value = .ok a) (f : α → Attempt β) :
    x.andThen f = ⟨(f a).value, x.events ++ (f a).events⟩ := by
  rw [andThen, Logged.andThen, h]

theorem andThen_of_error {cause : RoutingError} (h : x.value = .error cause)
    (f : α → Attempt β) : x.andThen f = ⟨.error cause, x.events⟩ := by
  rw [andThen, Logged.andThen, h]
  exact Logged.ext rfl (List.append_nil _)

/-- **Candid attempts one after the other are candid**, if the first succeeds without
alarms. -/
theorem Candid.andThen {f : α → Attempt β} (hP : ∀ y : Event, ¬y.Alarms → P y)
    (hx : x.Candid fun y => ¬y.Alarms) (hf : ∀ a, (f a).Candid P) : (x.andThen f).Candid P := by
  cases hvalue : x.value with
  | error cause =>
    rw [andThen_of_error hvalue]
    refine ⟨fun cause' hcause => ?_, fun _ h => nomatch h⟩
    obtain rfl : cause = cause' := Except.error.inj hcause
    exact hx.failed cause hvalue
  | ok a =>
    have hcalm := hx.succeeded a hvalue
    rw [andThen_of_ok hvalue]
    refine ⟨fun cause hcause => ?_, fun b hb => ?_⟩
    -- the failure is reported last, after the events of the first part
    · obtain ⟨before, report, hevents, hbefore, hreport⟩ := (hf a).failed cause hcause
      refine ⟨x.events ++ before, report, ?_, ?_, hreport⟩
      · rw [List.append_assoc, ← hevents]
      · exact List.forall_mem_append.mpr ⟨hcalm, hbefore⟩
    · refine List.forall_mem_append.mpr ⟨fun y hy => hP y (hcalm y hy), (hf a).succeeded b hb⟩

/-- A failure is reported. -/
theorem Candid.reported (hx : x.Candid P) {cause : RoutingError} (h : x.value = .error cause) :
    Reported x.events cause := by
  obtain ⟨before, report, hevents, -, -, hreport⟩ := hx.failed cause h
  exact ⟨report, hevents ▸ List.mem_concat_self, hreport⟩

/-- An attempt of which nobody needs more than whether it failed. -/
def forget (x : Attempt α) : Attempt Unit := ⟨x.value.map fun _ => (), x.events⟩

theorem value_forget_eq_error_iff {cause : RoutingError} :
    x.forget.value = .error cause ↔ x.value = .error cause := by
  rw [forget]
  cases x.value <;> simp [Except.map]

theorem exists_of_value_forget (h : x.forget.value = .ok ()) : ∃ a, x.value = .ok a := by
  cases hvalue : x.value with
  | ok a => exact ⟨a, rfl⟩
  | error cause =>
    rw [value_forget_eq_error_iff.mpr hvalue] at h
    contradiction

theorem Candid.forget (hx : x.Candid P) : x.forget.Candid P where
  failed cause h := hx.failed cause (value_forget_eq_error_iff.mp h)
  succeeded _ h := by
    obtain ⟨a, ha⟩ := exists_of_value_forget h
    exact hx.succeeded a ha

end Attempt
end PartitionRouting
