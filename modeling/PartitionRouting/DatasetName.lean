import PartitionRouting.Logged

/-!
# Names of datasets

Every version of a store is a dataset of its own, and versions are counted from
one.

## Main definitions

* `datasetName` — the name of the dataset of a version.
* `datasetForVersion` — the same, refusing version zero.
-/

namespace PartitionRouting

/-- The name of the dataset that holds a version of a store. -/
def datasetName (store : String) (version : UInt32) : String :=
  store ++ "_v" ++ toString version.toNat

/-- The dataset of a version of a store, if there is such a version. -/
def datasetForVersion (store : String) (version : UInt32) : Attempt String :=
  if version = 0 then Attempt.fail (.noVersionZero store) (.versionNotFound version)
  else Attempt.ok (datasetName store version)

end PartitionRouting
