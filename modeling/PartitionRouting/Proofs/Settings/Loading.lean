import PartitionRouting.Proofs.Settings.RoundTrip
import PartitionRouting.Proofs.Text.Reports

/-!
# What is reported of a load

Settings are loaded in three stages, and each of them can fail.  The last of them, the check
of the rules, reports the first rule that is broken.  The other two report nothing: of a file
that cannot be read or is no document of settings the log does not tell.

## Main definitions

* `Settings.settings?` — the settings that the text of a file stands for.

## Main results

* `Settings.load_of_none`, `load_of_sound`, `load_of_violation` — the three ways a load goes.
* `Settings.failures_told_of_settings` — **a load that fails is reported if the file stands
  for settings, and only then**; a load that succeeds is reported by nothing.
-/

namespace PartitionRouting

open Text

namespace Settings

/-- The settings that the text of a file stands for, whether or not they break a rule. -/
def settings? (file : FileContent) : Option Settings :=
  match file.text with
  | .error _ => none
  | .ok text => ofDocument? text

variable {file : FileContent} {s : Settings} {v : Violation}

theorem exists_text_of_settings? (h : settings? file = some s) :
    ∃ text, file.text = .ok text ∧ ofDocument? text = some s := by
  rw [settings?] at h
  cases htext : file.text with
  | error cause =>
    rw [htext] at h
    contradiction
  | ok text =>
    rw [htext] at h
    exact ⟨text, rfl, h⟩

/-- A file that stands for no settings is refused without a word. -/
theorem load_of_none (h : settings? file = none) :
    ∃ cause, load file = ⟨.error cause, []⟩ := by
  rw [settings?] at h
  rw [load]
  cases htext : file.text with
  | error cause => exact ⟨_, rfl⟩
  | ok text =>
    rw [htext] at h
    dsimp only at h ⊢
    rw [h]
    exact ⟨_, rfl⟩

/-- A file that stands for settings is loaded by checking them, and no more is reported. -/
theorem load_of_some (h : settings? file = some s) :
    load file = ⟨s.check.value.mapError .unusable, s.check.events⟩ := by
  obtain ⟨text, htext, hdocument⟩ := exists_text_of_settings? h
  rw [load, htext]
  dsimp only
  rw [hdocument]
  dsimp only
  refine Logged.ext ?_ ?_
  · rw [Logged.value_bind]
    cases s.check.value <;> rfl
  · rw [Logged.events_bind]
    cases s.check.value <;> exact List.append_nil _

/-- Settings that break no rule are loaded without a word. -/
theorem load_of_sound (h : settings? file = some s) (hv : s.violation? = none) :
    load file = ⟨.ok s, []⟩ := by
  rw [load_of_some h, check, hv]
  rfl

/-- Settings that break a rule are refused for the first one, and that is reported. -/
theorem load_of_violation (h : settings? file = some s) (hv : s.violation? = some v) :
    load file = ⟨.error (.unusable (.invalidConfig v.reason)), [.invalidSettings v]⟩ := by
  rw [load_of_some h, check, hv]
  rfl

/-- **What is reported of a load.** -/
structure ToldOfLoad (file : FileContent) : Prop where
  /-- A load that succeeds is reported by nothing. -/
  loaded : ∀ s, (load file).value = .ok s → (load file).events = []
  /-- If the file stands for settings, a load that fails is reported by one error, which gives
  the reason of the refusal. -/
  refused : ∀ s cause, settings? file = some s → (load file).value = .error cause →
    ∃ v, s.violation? = some v ∧ cause = .unusable (.invalidConfig v.reason) ∧
      (load file).events = [.invalidSettings v] ∧ (Event.invalidSettings v).level = .error ∧
      Within v.reason (Event.invalidSettings v).text
  /-- If the file stands for no settings, the load fails and is reported by nothing. -/
  unread : settings? file = none →
    (∃ cause, (load file).value = .error cause) ∧ (load file).events = []

/-- **A load that fails is reported if the file stands for settings, and only then**; a load
that succeeds is reported by nothing. -/
theorem failures_told_of_settings (file : FileContent) : ToldOfLoad file := by
  cases hsettings : settings? file with
  | none =>
    obtain ⟨cause, hload⟩ := load_of_none hsettings
    refine ⟨fun s h => ?_, fun s cause h => ?_, fun _ => ?_⟩
    · rw [hload]
    · rw [hsettings] at h
      contradiction
    · rw [hload]
      exact ⟨⟨cause, rfl⟩, rfl⟩
  | some s =>
    -- a file that holds settings fails only by a violation, and this is reported
    cases hv : s.violation? with
    | none =>
      have hload := load_of_sound hsettings hv
      refine ⟨fun s h => ?_, fun s cause _ h => ?_, fun h => ?_⟩
      · rw [hload]
      · rw [hload] at h
        contradiction
      · rw [hsettings] at h
        contradiction
    | some v =>
      have hload := load_of_violation hsettings hv
      refine ⟨fun s h => ?_, fun s' cause hs' h => ?_, fun h => ?_⟩
      · rw [hload] at h
        contradiction
      · rw [hsettings] at hs'
        rw [hload] at h ⊢
        obtain rfl := Option.some.inj hs'
        exact ⟨v, hv, (Except.error.inj h).symm, rfl, rfl, within_append _ _⟩
      · rw [hsettings] at h
        contradiction

/-- There is no word of a file that is missing, of bytes that are no text, of a text that is no
document, and of a document of something else, though each of them is refused. -/
theorem failures_untold_of_missing_file :
    ¬(∀ (file : FileContent) (cause : LoadError), (load file).value = .error cause →
      ∃ x ∈ (load file).events, x.level = .error) ∧
    load .missing = ⟨.error (.unusable (.io "No such file or directory (os error 2)")), []⟩ ∧
    load (.ok ⟨#[0xff]⟩) =
      ⟨.error (.unusable (.io "stream did not contain valid UTF-8")), []⟩ ∧
    load (.ofText "\x7b") = ⟨.error .malformed, []⟩ ∧
    load (.ofText "[1]") = ⟨.error .malformed, []⟩ := by
  refine ⟨fun h => ?_, rfl, ?_, ?_, ?_⟩
  · obtain ⟨x, hx, -⟩ := h .missing _ rfl
    contradiction
  · decide +kernel
  · decide +kernel
  · decide +kernel

end Settings
end PartitionRouting
