import Mathlib.Data.List.Rotate
import Mathlib.Data.Nat.ModEq
import PartitionRouting.Selection.Selector

/-!
# Selection in turn

Round robin turns the candidates of every request by one cursor, whatever the candidates
are.  Each call that is given something moves the cursor one place further, so the cursor is
the number of such calls.  Where a call starts thus depends on all calls before it, and two
calls with the same candidates start as far apart as the number of calls that moved the
cursor from the one to the other.

## Main definitions

* `PlacesAfter` — how far two elements of a list are apart if it is read around.
* `Selector.Call`, `Selector.answer` — a call and the replicas that it is given.
* `Call.counts` — whether a call moves the cursor of round robin.
* `Selector.serve`, `Selector.serveAll` — the selector after a call, and after many.

## Main results

* `Selector.toNat_cursor_serveAll` — the cursor counts the calls, up to its size.
* `Selector.answer_serveAll` — **the answer to a call after any others.**
* `Selector.starts_consecutive_iff` — **two calls with the same candidates start at
  consecutive ones exactly when a multiple of their number was served in between.**
-/

namespace PartitionRouting

/-- A list turned by a position in it is the rotated list. -/
theorem turned_mod_length {α : Type} (start : Nat) (l : List α) :
    turned (start % l.length) l = l.rotate start := List.rotate_eq_drop_append_take_mod.symm

/-! ### Places in a circle -/

/-- If the list is read around, `y` stands `k` places after `x`. -/
def PlacesAfter {α : Type} (k : Nat) (l : List α) (x y : α) : Prop :=
  ∃ i, l[i]? = some x ∧ l[(i + k) % l.length]? = some y

theorem exists_getElem?_mod {α : Type} {l : List α} (hl : 0 < l.length) (i : Nat) :
    ∃ x, l[i % l.length]? = some x :=
  ⟨_, List.getElem?_eq_getElem (Nat.mod_lt i hl)⟩

/-- Between two elements of a list without duplicates the number of places is determined up
to the length of the list. -/
theorem PlacesAfter.iff_modEq {α : Type} {j k : Nat} {l : List α} {x y : α} (hl : l.Nodup)
    (h : PlacesAfter j l x y) : PlacesAfter k l x y ↔ Nat.ModEq l.length j k := by
  obtain ⟨i, hx, hy⟩ := h
  have hpos : 0 < l.length := Nat.zero_lt_of_lt (List.getElem?_eq_some_iff.mp hx).1
  have hmod : l[(i + j) % l.length]? = l[(i + k) % l.length]? ↔ Nat.ModEq l.length j k := by
    rw [List.getElem?_inj (Nat.mod_lt _ hpos) hl]
    exact Nat.ModEq.add_iff_left rfl
  rw [← hmod, hy]
  constructor
  · rintro ⟨i', hx', hy'⟩
    have hlt := (List.getElem?_eq_some_iff.mp hx').1
    have hi : i' = i := (List.getElem?_inj hlt hl).mp (hx'.trans hx.symm)
    rw [← hy', hi]
  · intro hk
    exact ⟨i, hx, hk.symm⟩

namespace Selector

/-! ### Calls -/

/-- What a selector is asked, and what it may know of the instances at the time. -/
structure Call where
  /-- The health of the instances. -/
  signal : HealthSignal
  /-- The request. -/
  requestId : UInt64
  /-- The candidates. -/
  candidates : List Endpoint
  /-- How many replicas are asked for. -/
  count : Nat

namespace Call

/-- The candidates of a call that it may be given. -/
def available (c : Call) : List Endpoint := availableCandidates c.signal c.candidates

/-- Whether a call is given something: it asks for it, and some candidate is available. -/
def counts (c : Call) : Bool := c.count != 0 && !c.available.isEmpty

theorem nodup_available (c : Call) : c.available.Nodup := nodup_availableCandidates ..

theorem counts_iff {c : Call} : c.counts ↔ c.count ≠ 0 ∧ c.available ≠ [] := by
  simp [counts]

end Call

/-- The replicas that a call is given. -/
def answer (s : Selector) (c : Call) : List Endpoint :=
  s.select c.signal c.requestId c.candidates c.count

/-- The selector after a call. -/
def serve (s : Selector) (c : Call) : Selector := s.next c.signal c.candidates c.count

/-- The selector after a sequence of calls. -/
def serveAll (s : Selector) (cs : List Call) : Selector := cs.foldl serve s

theorem serveAll_append (s : Selector) (cs cs' : List Call) :
    s.serveAll (cs ++ cs') = (s.serveAll cs).serveAll cs' := List.foldl_append

/-! ### The cursor -/

theorem strategy_serve (s : Selector) (c : Call) : (s.serve c).strategy = s.strategy := by
  rw [serve, next]
  split <;> rfl

theorem strategy_serveAll (s : Selector) (cs : List Call) :
    (s.serveAll cs).strategy = s.strategy := by
  induction cs generalizing s with
  | nil => rfl
  | cons c rest ih => exact (ih (s.serve c)).trans (s.strategy_serve c)

theorem cursor_serve {s : Selector} (hs : s.strategy = .roundRobin) (c : Call) :
    (s.serve c).cursor = if c.counts then s.cursor + 1 else s.cursor := by
  have hturns : s.turns c.signal c.candidates c.count = c.counts := by
    rw [turns, hs]
    rfl
  rw [serve, next, hturns]
  split <;> rfl

/-- **The cursor of round robin counts the calls that were given something**, up to its
size. -/
theorem toNat_cursor_serveAll {s : Selector} (hs : s.strategy = .roundRobin) (cs : List Call) :
    (s.serveAll cs).cursor.toNat =
      (s.cursor.toNat + cs.countP (·.counts)) % UInt64.size := by
  induction cs generalizing s with
  | nil => exact (Nat.mod_eq_of_lt s.cursor.toNat_lt).symm
  | cons c rest ih =>
    have hrest := ih ((s.strategy_serve c).trans hs)
    rw [cursor_serve hs] at hrest
    rw [List.countP_cons]
    cases hcounts : c.counts with
    | true =>
      rw [hcounts, if_pos rfl, UInt64.toNat_add] at hrest
      calc (s.serveAll (c :: rest)).cursor.toNat
        _ = ((s.cursor.toNat + 1) % UInt64.size + rest.countP (·.counts)) % UInt64.size := hrest
        _ = (s.cursor.toNat + 1 + rest.countP (·.counts)) % UInt64.size := Nat.mod_add_mod ..
        _ = (s.cursor.toNat + (rest.countP (·.counts) + 1)) % UInt64.size := by
          rw [Nat.add_assoc, Nat.add_comm 1]
    | false =>
      rw [hcounts] at hrest
      exact hrest

/-- **What round robin answers to a call**: the available candidates, turned by the number of
calls before that were given something. -/
theorem answer_serveAll {s : Selector} (hs : s.strategy = .roundRobin) (cs : List Call)
    (c : Call) :
    (s.serveAll cs).answer c =
      (c.available.rotate ((s.cursor.toNat + cs.countP (·.counts)) % UInt64.size)).take
        c.count := by
  rw [answer, select, strategy_serveAll, hs, ← toNat_cursor_serveAll hs]
  exact congrArg (List.take c.count) (turned_mod_length _ c.available)

/-! ### Where calls start -/

theorem head?_answer_serveAll {s : Selector} (hs : s.strategy = .roundRobin) {cs : List Call}
    {c : Call} (hc : c.counts) (hsize : s.cursor.toNat + cs.length < UInt64.size) :
    ((s.serveAll cs).answer c).head? =
      c.available[(s.cursor.toNat + cs.countP (·.counts)) % c.available.length]? := by
  obtain ⟨hcount, havailable⟩ := Call.counts_iff.mp hc
  have hle : cs.countP (·.counts) ≤ cs.length := List.countP_le_length
  have hlt : s.cursor.toNat + cs.countP (·.counts) < UInt64.size := by omega
  rw [answer_serveAll hs, Nat.mod_eq_of_lt hlt, List.head?_take, if_neg hcount,
    ← List.rotate_mod]
  exact List.head?_rotate (Nat.mod_lt _ (List.length_pos_of_ne_nil havailable))

/-- **Where two calls with the same candidates start.**  The second starts as many places
after the first as calls were given something from the first on; so it starts at the
candidate next to that of the first exactly when the number of such calls in between is a
multiple of the number of candidates. -/
theorem starts_consecutive_iff {s : Selector} (hs : s.strategy = .roundRobin)
    {before between : List Call} {c c' : Call} (hc : c.counts) (hc' : c'.counts)
    (hsame : c'.available = c.available)
    (hsize : s.cursor.toNat + (before ++ c :: between).length < UInt64.size) :
    ∃ x y, ((s.serveAll before).answer c).head? = some x ∧
      ((s.serveAll (before ++ c :: between)).answer c').head? = some y ∧
      PlacesAfter (between.countP (·.counts) + 1) c.available x y ∧
      (PlacesAfter 1 c.available x y ↔
        c.available.length ∣ between.countP (·.counts)) := by
  have hpos : 0 < c.available.length := List.length_pos_of_ne_nil (Call.counts_iff.mp hc).2
  have hcount : (before ++ c :: between).countP (·.counts) =
      before.countP (·.counts) + (between.countP (·.counts) + 1) := by
    rw [List.countP_append, List.countP_cons, if_pos hc]
  have hshort : s.cursor.toNat + before.length < UInt64.size := by
    rw [List.length_append] at hsize
    omega
  have hfirst := head?_answer_serveAll hs hc hshort
  have hsecond := head?_answer_serveAll hs hc' hsize
  rw [hsame, hcount, ← Nat.add_assoc, ← Nat.mod_add_mod] at hsecond
  -- the first call is the one after `m` that counted, and `k` count in between
  generalize s.cursor.toNat + before.countP (·.counts) = m at hfirst hsecond
  generalize between.countP (·.counts) = k at hsecond ⊢
  obtain ⟨x, hx⟩ := exists_getElem?_mod hpos m
  obtain ⟨y, hy⟩ := exists_getElem?_mod hpos (m % c.available.length + (k + 1))
  have hafter : PlacesAfter (k + 1) c.available x y := ⟨_, hx, hy⟩
  refine ⟨x, y, hfirst.trans hx, hsecond.trans hy, hafter, ?_⟩
  rw [hafter.iff_modEq c.nodup_available]
  exact Nat.add_modEq_right_iff

end Selector
end PartitionRouting
