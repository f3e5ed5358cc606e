import PartitionRouting.Proofs.Json.Compact
import PartitionRouting.Proofs.Json.Records
import PartitionRouting.Settings.Document

/-!
# Settings written out

## Main definitions

* `Strategy.Form`, `HealthSettings.Form`, `Settings.Form` — settings written out as values.

## Main results

* `HealthSettings.ofValue?_object`, `Settings.ofValue?_object` — the settings that an object
  stands for.
* `Settings.ofValue?_of_form` — **settings are found in what is written out for them.**
-/

namespace PartitionRouting

open Json

/-- **A text written out.** -/
def StringForm (t : String) (v : Value) : Prop := ∃ s, v = .string s ∧ s.Spells t.toList

/-- **A strategy written out**: its name, or an object with its name and no value. -/
inductive Strategy.Form (s : Strategy) : Value → Prop
  /-- Its name. -/
  | name {key : Spelling} (h : key.Spells s.label.toList) : Form s (.string key)
  /-- An object. -/
  | tagged {key : Spelling} (h : key.Spells s.label.toList) : Form s (.object [(key, .null)])

/-- **The thresholds written out.** -/
def HealthSettings.Form (s : HealthSettings) : Value → Prop :=
  RecordForm [("unhealthy_after_failures", (· = decimal s.unhealthyAfterFailures.toNat)),
    ("retry_unhealthy_after_ms", (· = decimal s.retryUnhealthyAfterMs.toNat)),
    ("request_timeout_ms", (· = decimal s.requestTimeoutMs.toNat))]

/-- **The settings written out.** -/
def Settings.Form (s : Settings) : Value → Prop :=
  RecordForm [("store_name", StringForm s.storeName), ("routing_strategy", s.strategy.Form),
    ("health", s.health.Form)]

/-! ### What is read -/

theorem StringForm.text? {t : String} {v : Value} (h : StringForm t v) : v.text? = some t := by
  obtain ⟨s, rfl, hs⟩ := h
  exact Spelling.text?_eq_some_iff.mpr hs

theorem Strategy.ofValue?_of_form {s : Strategy} {v : Value} (h : s.Form v) :
    Strategy.ofValue? v = some s := by
  cases h with
  | name h => cases s <;> simp [ofValue?, Spelling.text?_eq_some_iff.mpr h, label]
  | tagged h => cases s <;> simp [ofValue?, Spelling.text?_eq_some_iff.mpr h, label]

/-- **A number is read back from its digits.** -/
theorem wordOfValue?_decimal (n : UInt64) : wordOfValue? (decimal n.toNat) = some n := by
  have hwhole : whole? (Nat.toDigits 10 n.toNat) = some n.toNat := by
    rw [whole?, if_pos (isWhole_of_wholeText (wholeText_toDigits n.toNat))]
    exact congrArg some Nat.ofDigitChars_ten_toDigits
  have hlimit : n.toNat ≤ UInt64.size - 1 := Nat.le_sub_one_of_lt n.toNat_lt
  have hvalue : (decimal n.toNat).natural? (UInt64.size - 1) = some n.toNat := by
    show (whole? (Nat.toDigits 10 n.toNat)).filter _ = _
    rw [hwhole, Option.filter_some, if_pos (decide_eq_true hlimit)]
  rw [wordOfValue?, hvalue]
  exact congrArg some UInt64.ofNat_toNat

theorem HealthSettings.ofValue?_eq_some_iff {v : Value} {s : HealthSettings} :
    ofValue? v = some s ↔ ∃ x y z, v.fields? fieldNames = some [x, y, z] ∧
      field? (some 3) wordOfValue? x = some s.unhealthyAfterFailures ∧
      field? (some 10000) wordOfValue? y = some s.retryUnhealthyAfterMs ∧
      field? (some 5000) wordOfValue? z = some s.requestTimeoutMs := by
  rw [ofValue?, Option.bind_eq_bind, Option.bind_eq_some_iff]
  constructor
  · rintro ⟨fields, hfields, h⟩
    split at h
    · simp only [Option.bind_eq_bind, Option.bind_eq_some_iff, Option.pure_def,
        Option.some.injEq] at h
      obtain ⟨_, hx, _, hy, _, hz, rfl⟩ := h
      exact ⟨_, _, _, hfields, hx, hy, hz⟩
    · contradiction
  · rintro ⟨x, y, z, hfields, hx, hy, hz⟩
    exact ⟨_, hfields, by simp [hx, hy, hz]⟩

theorem Settings.ofValue?_eq_some_iff {v : Value} {s : Settings} :
    ofValue? v = some s ↔ ∃ x y z, v.fields? fieldNames = some [x, y, z] ∧
      field? none Value.text? x = some s.storeName ∧
      field? (some .leastLoaded) Strategy.ofValue? y = some s.strategy ∧
      field? (some {}) HealthSettings.ofValue? z = some s.health := by
  rw [ofValue?, Option.bind_eq_bind, Option.bind_eq_some_iff]
  constructor
  · rintro ⟨fields, hfields, h⟩
    split at h
    · simp only [Option.bind_eq_bind, Option.bind_eq_some_iff, Option.pure_def,
        Option.some.injEq] at h
      obtain ⟨_, hx, _, hy, _, hz, rfl⟩ := h
      exact ⟨_, _, _, hfields, hx, hy, hz⟩
    · contradiction
  · rintro ⟨x, y, z, hfields, hx, hy, hz⟩
    exact ⟨_, hfields, by simp [hx, hy, hz, ofName]⟩

theorem HealthSettings.ofValue?_of_form {s : HealthSettings} {v : Value} (h : s.Form v) :
    ofValue? v = some s := by
  obtain ⟨x, y, z, hfields, rfl, rfl, rfl⟩ := RecordForm.fields? (by decide) h
  exact ofValue?_eq_some_iff.mpr ⟨_, _, _, hfields, wordOfValue?_decimal _,
    wordOfValue?_decimal _, wordOfValue?_decimal _⟩

/-- **Settings are found in what is written out for them.** -/
theorem Settings.ofValue?_of_form {s : Settings} {v : Value} (h : s.Form v) :
    ofValue? v = some s := by
  obtain ⟨x, y, z, hfields, hx, hy, hz⟩ := RecordForm.fields? (by decide) h
  exact ofValue?_eq_some_iff.mpr ⟨_, _, _, hfields, hx.text?, Strategy.ofValue?_of_form hy,
    HealthSettings.ofValue?_of_form hz⟩

/-- **The thresholds that an object stands for.** -/
theorem HealthSettings.ofValue?_object {members : List (Spelling × Value)} {s : HealthSettings} :
    ofValue? (.object members) = some s ↔ Keyed members ∧
      fieldOf? (some 3) wordOfValue? "unhealthy_after_failures" members =
        some s.unhealthyAfterFailures ∧
      fieldOf? (some 10000) wordOfValue? "retry_unhealthy_after_ms" members =
        some s.retryUnhealthyAfterMs ∧
      fieldOf? (some 5000) wordOfValue? "request_timeout_ms" members =
        some s.requestTimeoutMs := by
  rw [ofValue?_eq_some_iff]
  exact exists_memberFields?_three

/-- **The settings that an object stands for.** -/
theorem Settings.ofValue?_object {members : List (Spelling × Value)} {s : Settings} :
    ofValue? (.object members) = some s ↔ Keyed members ∧
      fieldOf? none Value.text? "store_name" members = some s.storeName ∧
      fieldOf? (some .leastLoaded) Strategy.ofValue? "routing_strategy" members =
        some s.strategy ∧
      fieldOf? (some {}) HealthSettings.ofValue? "health" members = some s.health := by
  rw [ofValue?_eq_some_iff]
  exact exists_memberFields?_three

end PartitionRouting
