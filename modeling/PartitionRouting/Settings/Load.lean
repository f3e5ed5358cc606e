import PartitionRouting.Settings.Check
import PartitionRouting.Settings.Document
import PartitionRouting.TextFile

/-!
# Loading settings

Settings are read from a file in three stages: the file must be a text, the text must
be a document that stands for settings, and the settings must break no rule.

## Main definitions

* `Settings.LoadError` — why a file gives no settings.
* `Settings.load` — the settings of a file.
-/

namespace PartitionRouting
namespace Settings

/-- Why a file gives no settings. -/
inductive LoadError
  /-- Its text does not stand for settings. -/
  | malformed
  /-- It cannot be read, or its settings break a rule. -/
  | unusable (cause : RoutingError)
  deriving DecidableEq, Repr

/-- The settings of a file. -/
def load (file : FileContent) : Logged (Except LoadError Settings) :=
  match file.text with
  | .error cause => pure (.error (.unusable (.io cause.message)))
  | .ok text =>
    match ofDocument? text with
    | none => pure (.error .malformed)
    | some settings => do
      match ← settings.check with
      | .ok settings => return .ok settings
      | .error cause => return .error (.unusable cause)

end Settings
end PartitionRouting
