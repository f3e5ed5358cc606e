import PartitionRouting.Health.Signal
import PartitionRouting.Selection.Digest

/-!
# Selection among candidates

Replicas are selected among the available candidates, each considered once.  The
least loaded strategy takes the first of their ranking by load; round robin takes
the first after turning the candidates by a cursor.

## Main definitions

* `firstOccurrences`, `availableCandidates` — the candidates that are considered.
* `RankKey`, `ranking`, `selectLeastLoaded` — selection by load.
* `turned`, `selectInTurn` — selection in turn.
-/

namespace PartitionRouting

/-- The elements of a list at their first occurrence. -/
def firstOccurrences {α : Type} [DecidableEq α] : List α → List α
  | [] => []
  | a :: rest => a :: (firstOccurrences rest).filter (· ≠ a)

theorem mem_firstOccurrences {α : Type} [DecidableEq α] {a : α} {l : List α} :
    a ∈ firstOccurrences l ↔ a ∈ l := by
  induction l with
  | nil => simp [firstOccurrences]
  | cons b rest ih =>
    by_cases h : a = b
    · simp [firstOccurrences, h]
    · simp [firstOccurrences, h, ih]

theorem nodup_firstOccurrences {α : Type} [DecidableEq α] (l : List α) :
    (firstOccurrences l).Nodup := by
  induction l with
  | nil => exact List.nodup_nil
  | cons b rest ih =>
    rw [firstOccurrences, List.nodup_cons]
    exact ⟨by simp, ih.filter _⟩

/-- The distinct candidates that are available, in the given order. -/
def availableCandidates (signal : HealthSignal) (candidates : List Endpoint) :
    List Endpoint :=
  (firstOccurrences candidates).filter signal.available

theorem mem_availableCandidates {signal : HealthSignal} {cs : List Endpoint} {e : Endpoint} :
    e ∈ availableCandidates signal cs ↔ e ∈ cs ∧ signal.available e = true := by
  simp [availableCandidates, mem_firstOccurrences]

theorem nodup_availableCandidates (signal : HealthSignal) (cs : List Endpoint) :
    (availableCandidates signal cs).Nodup :=
  (nodup_firstOccurrences cs).filter _

/-! ### By load -/

/-- What a candidate is ranked by. -/
structure RankKey where
  /-- The number of requests in flight. -/
  pending : Nat
  /-- The digest of the request and the candidate. -/
  digest : Nat
  /-- The candidate itself. -/
  endpoint : Endpoint
  deriving DecidableEq, Repr

namespace RankKey

/-- Whether `x` ranks strictly before `y`: by load, then by digest, then by name. -/
def before (x y : RankKey) : Bool :=
  x.pending < y.pending ||
    (x.pending = y.pending &&
      (x.digest < y.digest || (x.digest = y.digest && x.endpoint < y.endpoint)))

/-- Whether `x` does not rank after `y`. -/
def notAfter (x y : RankKey) : Bool := !y.before x

end RankKey

/-- The key of a candidate for a request. -/
def rankKey (signal : HealthSignal) (requestId : UInt64) (endpoint : Endpoint) : RankKey :=
  ⟨signal.pending endpoint, requestDigest requestId endpoint, endpoint⟩

/-- The available candidates of a request, best first. -/
def ranking (signal : HealthSignal) (requestId : UInt64) (candidates : List Endpoint) :
    List Endpoint :=
  (((availableCandidates signal candidates).map (rankKey signal requestId)).mergeSort
    RankKey.notAfter).map (·.endpoint)

/-- The ranking holds the available candidates. -/
theorem perm_ranking (signal : HealthSignal) (requestId : UInt64) (cs : List Endpoint) :
    (ranking signal requestId cs).Perm (availableCandidates signal cs) := by
  have h := (List.mergeSort_perm
    ((availableCandidates signal cs).map (rankKey signal requestId)) RankKey.notAfter).map
      (·.endpoint)
  have hmap : ((availableCandidates signal cs).map (rankKey signal requestId)).map (·.endpoint)
      = availableCandidates signal cs := by simp [rankKey, Function.comp_def]
  rwa [hmap] at h

/-- The best `count` candidates of a request. -/
def selectLeastLoaded (signal : HealthSignal) (requestId : UInt64)
    (candidates : List Endpoint) (count : Nat) : List Endpoint :=
  (ranking signal requestId candidates).take count

/-! ### In turn -/

/-- A list turned so that it starts at position `start`. -/
def turned {α : Type} (start : Nat) (l : List α) : List α := l.drop start ++ l.take start

theorem perm_turned {α : Type} (start : Nat) (l : List α) : (turned start l).Perm l := by
  have h : (l.drop start ++ l.take start).Perm (l.take start ++ l.drop start) :=
    List.perm_append_comm
  rwa [List.take_append_drop] at h

/-- The first `count` candidates after a turn by the cursor, counted around. -/
def selectInTurn (signal : HealthSignal) (cursor : UInt64) (candidates : List Endpoint)
    (count : Nat) : List Endpoint :=
  let available := availableCandidates signal candidates
  (turned (cursor.toNat % available.length) available).take count

end PartitionRouting
