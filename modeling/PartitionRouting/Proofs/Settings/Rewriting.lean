import Mathlib.Logic.Relation
import PartitionRouting.Proofs.Settings.RoundTrip

/-!
# Documents that stand for the same settings

Of an object the reader of settings only looks at the members with the names of the settings,
and only at their values.  So the members may come in any order, others may stand between them,
and a default may be written out, also in the object with the thresholds.  What it insists on is
that a name has one value, and that the value is one: a name that occurs twice, or has null, is
refused, whatever else the document says.

## Main definitions

* `HealthSettings.Usual`, `Settings.Usual` — the defaults written out.
* `Settings.Change` — changes of an object that do not matter to the settings it stands for.
* `Settings.Faulty` — a field that occurs twice, or is null, at either level.

## Main results

* `Settings.ofValue?_of_change` — a change keeps the settings.
* `Settings.ofValue?_of_faulty` — a fault leaves none.
* `Settings.load_of_changes` — **documents that differ by changes and blanks are loaded alike,
  and documents with faults are refused.**
-/

namespace PartitionRouting

open Json

/-- **The thresholds at their defaults.** -/
def HealthSettings.Usual (name : String) (v : Value) : Prop :=
  (name, v) ∈ [("unhealthy_after_failures", decimal 3),
    ("retry_unhealthy_after_ms", decimal 10000), ("request_timeout_ms", decimal 5000)]

/-- **The settings at their defaults**; the name of the store has none. -/
def Settings.Usual (name : String) (v : Value) : Prop :=
  name = "routing_strategy" ∧ Strategy.leastLoaded.Form v ∨
    name = "health" ∧ HealthSettings.Form ⟨3, 10000, 5000⟩ v

theorem HealthSettings.ofValue?_of_change {hs hs' : List (Spelling × Value)}
    (h : RecordChange fieldNames Usual hs hs') :
    ofValue? (.object hs) = ofValue? (.object hs') := by
  have hfailures : ∀ v, Usual "unhealthy_after_failures" v → wordOfValue? v = some 3 := by
    intro v hv
    obtain rfl : v = decimal 3 := by simpa [Usual] using hv
    exact wordOfValue?_decimal 3
  have hretry : ∀ v, Usual "retry_unhealthy_after_ms" v → wordOfValue? v = some 10000 := by
    intro v hv
    obtain rfl : v = decimal 10000 := by simpa [Usual] using hv
    exact wordOfValue?_decimal 10000
  have htimeout : ∀ v, Usual "request_timeout_ms" v → wordOfValue? v = some 5000 := by
    intro v hv
    obtain rfl : v = decimal 5000 := by simpa [Usual] using hv
    exact wordOfValue?_decimal 5000
  ext s
  rw [ofValue?_object, ofValue?_object, h.keyed_iff,
    h.fieldOf?_eq (by decide) hfailures, h.fieldOf?_eq (by decide) hretry,
    h.fieldOf?_eq (by decide) htimeout]

theorem HealthSettings.ofValue?_of_faulty {v : Value} (h : Json.Faulty fieldNames v) :
    ofValue? v = none := by
  rw [Option.eq_none_iff_forall_ne_some]
  intro s hs
  obtain ⟨x, y, z, hfields, hx, hy, hz⟩ := ofValue?_eq_some_iff.mp hs
  have hnull := h.null_mem hfields
  simp only [List.mem_cons, List.not_mem_nil, or_false] at hnull
  rcases hnull with rfl | rfl | rfl
  · contradiction
  · contradiction
  · contradiction

namespace Settings

/-- **Changes of an object that do not matter** to the settings it stands for: of the object
itself, or of an object with the thresholds. -/
inductive Change : List (Spelling × Value) → List (Spelling × Value) → Prop
  /-- A change of the object. -/
  | settings {ms ms' : List (Spelling × Value)} (h : RecordChange fieldNames Usual ms ms') :
    Change ms ms'
  /-- A change of the thresholds. -/
  | health {l r hs hs' : List (Spelling × Value)} {key : Spelling}
    (hkey : key.Spells "health".toList)
    (h : RecordChange HealthSettings.fieldNames HealthSettings.Usual hs hs') :
    Change (l ++ (key, .object hs) :: r) (l ++ (key, .object hs') :: r)

theorem ofValue?_of_change {ms ms' : List (Spelling × Value)} (h : Change ms ms') :
    ofValue? (.object ms) = ofValue? (.object ms') := by
  ext s
  rw [ofValue?_object, ofValue?_object]
  cases h with
  | settings h =>
    have hname : ∀ v, Usual "store_name" v → v.text? = none := by simp [Usual]
    have hstrategy : ∀ v, Usual "routing_strategy" v →
        Strategy.ofValue? v = some .leastLoaded := by
      intro v hv
      exact Strategy.ofValue?_of_form (by simpa [Usual] using hv)
    have hhealth : ∀ v, Usual "health" v → HealthSettings.ofValue? v = some {} := by
      intro v hv
      exact HealthSettings.ofValue?_of_form (by simpa [Usual] using hv)
    rw [h.keyed_iff, h.fieldOf?_eq (by decide) hname, h.fieldOf?_eq (by decide) hstrategy,
      h.fieldOf?_eq (by decide) hhealth]
  | @health l r hs hs' key hkey h =>
    -- the other two fields do not see a member with this key
    have htext : key.text? = some "health" := Spelling.text?_eq_some_iff.mpr hkey
    have hname : key.text? = some "store_name" →
        (Value.object hs).text? = (Value.object hs').text? := fun _ => rfl
    have hstrategy : key.text? = some "routing_strategy" →
        Strategy.ofValue? (.object hs) = Strategy.ofValue? (.object hs') := by simp [htext]
    have hhealth : key.text? = some "health" →
        HealthSettings.ofValue? (.object hs) = HealthSettings.ofValue? (.object hs') :=
      fun _ => HealthSettings.ofValue?_of_change h
    rw [keyed_replace, fieldOf?_replace hname, fieldOf?_replace hstrategy,
      fieldOf?_replace hhealth]

/-- **A fault in a document**: in the settings, or in their thresholds. -/
inductive Faulty : Value → Prop
  /-- A fault in the settings. -/
  | settings {v : Value} (h : Json.Faulty fieldNames v) : Faulty v
  /-- A fault in the thresholds of an object. -/
  | member {members : List (Spelling × Value)} {m : Spelling × Value} (hm : m ∈ members)
    (hkey : m.1.Spells "health".toList) (h : Json.Faulty HealthSettings.fieldNames m.2) :
    Faulty (.object members)
  /-- A fault in the thresholds of an array. -/
  | item {x y z : Value} (h : Json.Faulty HealthSettings.fieldNames z) :
    Faulty (.array [x, y, z])

theorem ofValue?_of_faulty {v : Value} (h : Faulty v) : ofValue? v = none := by
  rw [Option.eq_none_iff_forall_ne_some]
  intro s hs
  cases h with
  | settings h =>
    -- null is none of a text, a strategy and an object
    obtain ⟨x, y, z, hfields, hx, hy, hz⟩ := ofValue?_eq_some_iff.mp hs
    have hnull := h.null_mem hfields
    simp only [List.mem_cons, List.not_mem_nil, or_false] at hnull
    rcases hnull with rfl | rfl | rfl
    · contradiction
    · contradiction
    · contradiction
  | member hm hkey h =>
    have hhealth := decode_of_fieldOf? (ofValue?_object.mp hs).2.2.2 hm hkey
    rw [HealthSettings.ofValue?_of_faulty h] at hhealth
    contradiction
  | @item x y z h =>
    have hitems : (Value.array [x, y, z]).fields? fieldNames = some [some x, some y, some z] := rfl
    obtain ⟨_, _, _, hfields, -, -, hhealth⟩ := ofValue?_eq_some_iff.mp hs
    simp only [hitems, Option.some.injEq, List.cons.injEq, and_true] at hfields
    obtain ⟨-, -, rfl⟩ := hfields
    exact absurd ((HealthSettings.ofValue?_of_faulty h).symm.trans hhealth) (by simp)

/-- Any number of changes, made or undone, keep the settings. -/
theorem ofValue?_of_changes {ms ms' : List (Spelling × Value)}
    (h : Relation.EqvGen Change ms ms') : ofValue? (.object ms) = ofValue? (.object ms') := by
  induction h with
  | rel _ _ h => exact ofValue?_of_change h
  | refl _ => rfl
  | symm _ _ _ ih => exact ih.symm
  | trans _ _ _ _ _ ih ih' => exact ih.trans ih'

/-- **Documents that differ by changes and blanks are loaded alike, and documents with faults
are refused.** -/
theorem load_of_changes :
    (∀ (ms ms' : List (Spelling × Value)) (document document' : String),
      (Value.object ms).Written document.toList → (Value.object ms').Written document'.toList →
      Relation.EqvGen Change ms ms' → load (.ofText document) = load (.ofText document')) ∧
      ∀ (v : Value) (document : String), v.Written document.toList → Faulty v →
        (load (.ofText document)).value = .error .malformed := by
  constructor
  · intro ms ms' document document' h h' hchanges
    apply load_congr
    rw [ofDocument?_of_written h, ofDocument?_of_written h', ofValue?_of_changes hchanges]
  · intro v document h hfault
    have hread : ofDocument? document = none :=
      (ofDocument?_of_written h).trans (ofValue?_of_faulty hfault)
    rw [load_ofText_of_none hread]
    rfl

set_option maxRecDepth 1000 in
/-- The members in another order, an unknown one and a default written out; and a name given
twice. -/
theorem load_of_changes_of_order :
    load (.ofText "\x7b\"store_name\":\"a\",\"health\":\x7b\x7d\x7d") =
        load (.ofText
        "\x7b \"health\":\x7b\"request_timeout_ms\":5000\x7d,\"x\":[],\"store_name\":\"a\"\x7d") ∧
      (load (.ofText "\x7b\"store_name\":\"a\",\"store_name\":\"a\"\x7d")).value =
        .error .malformed := by
  constructor
  · let name : Spelling × Value := (spelled "store_name", .string (spelled "a"))
    let timeout : Spelling × Value := (spelled "request_timeout_ms", decimal 5000)
    have hreorder : Change [name, (spelled "health", .object [])]
        [(spelled "health", .object []), name] := .settings (.reorder (.swap _ _ []))
    have hunknown : Change [(spelled "health", .object []), name]
        [(spelled "health", .object []), (spelled "x", .array []), name] :=
      .settings (.unknown (l := [_]) (r := [name]) (spells_spelled "x") (by decide))
    have hdefault : Change [(spelled "health", .object []), (spelled "x", .array []), name]
        [(spelled "health", .object [timeout]), (spelled "x", .array []), name] :=
      .health (l := []) (spells_spelled "health")
        (.usual (l := []) (r := []) (spells_spelled "request_timeout_ms") (by simp)
          (by simp [HealthSettings.Usual]))
    exact load_of_changes.1 [name, (spelled "health", .object [])] _ _ _
      (read?_eq_some_iff.mp (by rfl)) (read?_eq_some_iff.mp (by rfl))
      (.trans _ _ _ (.rel _ _ hreorder) (.trans _ _ _ (.rel _ _ hunknown) (.rel _ _ hdefault)))
  · have hname : "store_name" ∈ fieldNames := by decide
    exact load_of_changes.2 (.object [(spelled "store_name", .string (spelled "a")),
      (spelled "store_name", .string (spelled "a"))]) _ (read?_eq_some_iff.mp (by rfl))
      (.settings (.twice hname (.refl _) (spells_spelled _) (spells_spelled _)))

end Settings
end PartitionRouting
