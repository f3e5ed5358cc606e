import PartitionRouting.Logged

/-!
# Checked settings

## Main definitions

* `Settings.check` — refuses settings that break a rule, and reports the first one.
-/

namespace PartitionRouting
namespace Settings

/-- The settings, if they break no rule. -/
def check (s : Settings) : Attempt Settings :=
  match s.violation? with
  | none => Attempt.ok s
  | some v => Attempt.fail (.invalidSettings v) (.invalidConfig v.reason)

end Settings
end PartitionRouting
