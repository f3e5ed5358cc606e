import Std.Data.ExtTreeMap

/-!
# Lookups in maps

A map has a key if it gives something for it.  An insertion and an erasure change what a map
gives for one key.  Where keys that compare as equal are equal, the key is told from the
others by equality.

## Main results

* `mem_iff_exists_getElem?` — which keys a map has.
* `getElem?_insert_eq_ite`, `getElem?_erase_eq_ite` — what a map gives for a key after an
  insertion and after an erasure.
-/

namespace PartitionRouting

open Std

variable {α β : Type} [Ord α] [TransOrd α]

theorem mem_iff_exists_getElem? {m : ExtTreeMap α β} {k : α} : k ∈ m ↔ ∃ b, m[k]? = some b := by
  rw [ExtTreeMap.mem_iff_isSome_getElem?, Option.isSome_iff_exists]

variable [LawfulEqOrd α] [DecidableEq α]

theorem getElem?_insert_eq_ite (m : ExtTreeMap α β) (k a : α) (b : β) :
    (m.insert k b)[a]? = if a = k then some b else m[a]? := by
  rw [ExtTreeMap.getElem?_insert]
  exact ite_congr (propext (Std.compare_eq_iff_eq.trans eq_comm)) (fun _ => rfl) fun _ => rfl

theorem getElem?_erase_eq_ite (m : ExtTreeMap α β) (k a : α) :
    (m.erase k)[a]? = if a = k then none else m[a]? := by
  rw [ExtTreeMap.getElem?_erase]
  exact ite_congr (propext (Std.compare_eq_iff_eq.trans eq_comm)) (fun _ => rfl) fun _ => rfl

end PartitionRouting
