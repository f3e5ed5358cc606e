import PartitionRouting.Proofs.Json.Exactness
import PartitionRouting.Proofs.Settings.Forms
import PartitionRouting.Settings.Load
import PartitionRouting.Store.Basic

/-!
# Settings are read back

Settings are loaded from a document in three stages.  A text written for settings passes the
first two, and what is left is the check of the rules; which of them is broken first is what
the file is refused for.

## Main definitions

* `Settings.toValue`, `Settings.document` — settings as a value, and written without blanks.

## Main results

* `Settings.load_ofText_of_some` — loading a document checks the settings it stands for.
* `Settings.load_of_written` — **settings are loaded from whatever is written for them, if
  they break no rule.**
-/

namespace PartitionRouting

open Json

/-! ### Loading a text -/

theorem FileContent.text_ofText (t : String) : (FileContent.ofText t).text = .ok t := by
  have hread : String.fromUTF8? t.toUTF8 = some t := by
    rw [String.fromUTF8?, String.toUTF8_eq_toByteArray, dif_pos t.isValidUTF8]
    rfl
  rw [ofText, text, hread]

namespace Settings

/-- Loading a document only looks at the settings it stands for. -/
theorem load_congr {t t' : String} (h : ofDocument? t = ofDocument? t') :
    load (.ofText t) = load (.ofText t') := by
  rw [load, load, FileContent.text_ofText, FileContent.text_ofText]
  dsimp only
  rw [h]

theorem load_ofText_of_none {t : String} (h : ofDocument? t = none) :
    load (.ofText t) = pure (.error .malformed) := by
  rw [load, FileContent.text_ofText]
  dsimp only
  rw [h]

/-- Loading a document checks the settings it stands for. -/
theorem load_ofText_of_some {t : String} {s : Settings} (h : ofDocument? t = some s) :
    (load (.ofText t)).value = s.check.value.mapError .unusable := by
  rw [load, FileContent.text_ofText]
  dsimp only
  rw [h]
  dsimp only
  rw [Logged.value_bind]
  cases s.check.value <;> rfl

/-- The check refuses settings for the first rule they break. -/
theorem value_check (s : Settings) :
    s.check.value =
      if s.storeName = "" then .error (.invalidConfig "store_name cannot be empty")
      else if s.health.unhealthyAfterFailures = 0 then
        .error (.invalidConfig "health.unhealthy_after_failures must be at least 1")
      else if s.health.requestTimeoutMs = 0 then
        .error (.invalidConfig "health.request_timeout_ms must be at least 1")
      else .ok s := by
  rw [check, violation?]
  split_ifs <;> rfl

theorem ofDocument?_of_written {v : Value} {document : String} (h : v.Written document.toList) :
    ofDocument? document = ofValue? v := by
  rw [ofDocument?, read?_of_written h]
  rfl

/-- Loading a file only looks at its text. -/
theorem load_eq_of_text {file : FileContent} {t : String} (h : file.text = .ok t) :
    load file = load (.ofText t) := by
  rw [load, load, h, FileContent.text_ofText]

/-- Loaded settings break no rule. -/
theorem value_check_of_load {file : FileContent} {s : Settings}
    (h : (load file).value = .ok s) : s.check.value = .ok s := by
  cases htext : file.text with
  | error cause =>
    rw [load, htext] at h
    contradiction
  | ok t =>
    rw [load_eq_of_text htext] at h
    cases hdocument : ofDocument? t with
    | none =>
      rw [load_ofText_of_none hdocument] at h
      contradiction
    | some s' =>
      rw [load_ofText_of_some hdocument, value_check] at h
      rw [value_check]
      -- settings that were loaded have passed the check, so they pass it again
      split_ifs at h with hname hfailures htimeout
      · contradiction
      · contradiction
      · contradiction
      · obtain rfl : s' = s := Except.ok.inj h
        rw [if_neg hname, if_neg hfailures, if_neg htimeout]

end Settings

/-! ### Documents without blanks -/

/-- The thresholds as a value. -/
def HealthSettings.toValue (s : HealthSettings) : Value :=
  .object [(spelled "unhealthy_after_failures", decimal s.unhealthyAfterFailures.toNat),
    (spelled "retry_unhealthy_after_ms", decimal s.retryUnhealthyAfterMs.toNat),
    (spelled "request_timeout_ms", decimal s.requestTimeoutMs.toNat)]

namespace Settings

/-- The settings as a value. -/
def toValue (s : Settings) : Value :=
  .object [(spelled "store_name", .string (spelled s.storeName)),
    (spelled "routing_strategy", .string (spelled s.strategy.label)),
    (spelled "health", s.health.toValue)]

/-- **The settings written without blanks.** -/
def document (s : Settings) : String := s.toValue.compact

theorem form_toValue (s : Settings) : s.Form s.toValue := by
  have hhealth : s.health.Form s.health.toValue :=
    .object (.cons ⟨spells_spelled _, rfl⟩ (.cons ⟨spells_spelled _, rfl⟩
      (.cons ⟨spells_spelled _, rfl⟩ .nil)))
  exact .object (.cons ⟨spells_spelled _, _, rfl, spells_spelled _⟩
    (.cons ⟨spells_spelled _, .name (spells_spelled _)⟩
      (.cons ⟨spells_spelled _, hhealth⟩ .nil)))

theorem written_document (s : Settings) : s.toValue.Written s.document.toList := by
  have hstring : ∀ t, (Token.string (spelled t)).Written (Token.string (spelled t)).compact :=
    fun t => .string (written_spelled t)
  have hnumber : ∀ n, (Token.number (Nat.toDigits 10 n)).Written (Nat.toDigits 10 n) :=
    fun n => .number (numberText_toDigits n)
  refine written_compact ?_
  simp only [toValue, HealthSettings.toValue, decimal, Value.tokens, laterMembers,
    List.cons_append, List.nil_append, List.forall_mem_cons]
  exact ⟨.openObject, hstring _, .colon, hstring _, .comma, hstring _, .colon, hstring _, .comma,
    hstring _, .colon, .openObject, hstring _, .colon, hnumber _, .comma, hstring _, .colon,
    hnumber _, .comma, hstring _, .colon, hnumber _, .closeObject, .closeObject, by simp⟩

/-- **Settings are loaded from whatever is written for them, if they break no rule**; else
the file is refused for the first rule they break.  Something is written for any settings, and
loaded settings set up a store. -/
theorem load_of_written :
    (∀ (s : Settings) (v : Value) (document : String), s.Form v → v.Written document.toList →
      (load (.ofText document)).value =
        if s.storeName = "" then
          .error (.unusable (.invalidConfig "store_name cannot be empty"))
        else if s.health.unhealthyAfterFailures = 0 then
          .error (.unusable
            (.invalidConfig "health.unhealthy_after_failures must be at least 1"))
        else if s.health.requestTimeoutMs = 0 then
          .error (.unusable (.invalidConfig "health.request_timeout_ms must be at least 1"))
        else .ok s) ∧
      (∀ s : Settings, s.Form s.toValue ∧ s.toValue.Written s.document.toList) ∧
      ∀ (file : FileContent) (s : Settings), (load file).value = .ok s →
        ∀ (registry : Registry) (book : AddressBook) (network : Network) (sink : Sink),
          ∃ store, (Store.ofSettings s registry book network sink).value = .ok store := by
  refine ⟨?_, fun s => ⟨form_toValue s, written_document s⟩, ?_⟩
  · intro s v document hv hdocument
    have hread : ofDocument? document = some s :=
      (ofDocument?_of_written hdocument).trans (ofValue?_of_form hv)
    rw [load_ofText_of_some hread, value_check]
    split_ifs <;> rfl
  · intro file s h registry book network sink
    exact ⟨_, Attempt.value_andThen_of_ok (value_check_of_load h) _⟩

/-- A document as an array, with blanks, and with all ways to write a character. -/
theorem load_of_written_of_array :
    (load (.ofText
      "[ \"a\\u0000\\ud83D\\uDe80\\/\",\x7b\"round_robin\":null\x7d,\n[1,0,3]]")).value =
      .ok ⟨"a\x00🚀/", .roundRobin, ⟨1, 0, 3⟩⟩ := by
  have hspells : Spelling.Spells [.plain 'a', .unit 0, .unit 0xd83d, .unit 0xde80, .short '/']
      "a\x00🚀/".toList := Spelling.text?_eq_some_iff.mp (by decide)
  have hform : Settings.Form ⟨"a\x00🚀/", .roundRobin, ⟨1, 0, 3⟩⟩
      (.array [.string _, .object [(spelled "round_robin", .null)],
        .array [decimal 1, decimal 0, decimal 3]]) :=
    .array (.cons ⟨_, rfl, hspells⟩ (.cons (.tagged (spells_spelled _))
      (.cons (.array (.cons rfl (.cons rfl (.cons rfl .nil)))) .nil)))
  exact load_of_written.1 _ _ _ hform (read?_eq_some_iff.mp (by rfl))

end Settings
end PartitionRouting
