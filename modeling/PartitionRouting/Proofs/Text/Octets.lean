import Mathlib.Data.List.Lex
import Mathlib.Data.String.Basic

/-!
# Texts by their octets

Texts are compared character by character, and characters by their code points.  In UTF-8 a
character takes one to four octets, and the octets of one character are never the beginning
of those of another, so it makes no difference whether two texts are compared by their
characters or by their octets.

## Main definitions

* `octets` — the octets of a text in UTF-8, as numbers.

## Main results

* `octets_strictMono` — a smaller text has smaller octets.
* `octets_lt_iff`, `octets_injective` — **the octets of texts are ordered as the texts.**
-/

namespace PartitionRouting

/-- The octets of a text in UTF-8. -/
def octets (s : String) : List ℕ := s.toUTF8.data.toList.map UInt8.toNat

/-! ### One character -/

/-- The octets of the character with code point `v`. -/
def charOctets (v : ℕ) : List ℕ :=
  if v ≤ 0x7f then [v]
  else if v ≤ 0x7ff then [v / 64 + 0xc0, v % 64 + 0x80]
  else if v ≤ 0xffff then [v / 4096 + 0xe0, v / 64 % 64 + 0x80, v % 64 + 0x80]
  else [v / 262144 + 0xf0, v / 4096 % 64 + 0x80, v / 64 % 64 + 0x80, v % 64 + 0x80]

theorem charOctets_ne_nil (v : ℕ) : charOctets v ≠ [] := by
  unfold charOctets
  split_ifs <;> exact List.cons_ne_nil _ _

theorem map_toNat_utf8EncodeChar (c : Char) :
    (String.utf8EncodeChar c).map UInt8.toNat = charOctets c.toNat := by
  have hmax : c.val.toNat < 0x110000 := by
    rcases c.valid with h | h <;> omega
  show _ = charOctets c.val.toNat
  unfold String.utf8EncodeChar charOctets
  generalize c.val.toNat = v at hmax
  dsimp only
  split_ifs <;> simp <;> omega

/-- The octets of two characters differ before either of them ends, and the character with
the smaller code point has the smaller octet there. -/
theorem charOctets_append_lt {v w : ℕ} (h : v < w) (l m : List ℕ) :
    charOctets v ++ l < charOctets w ++ m := by
  -- the octets after the first are digits to the base 64
  have hv := Nat.div_div_eq_div_mul v 64 64
  have hv' := Nat.div_div_eq_div_mul v 4096 64
  have hw := Nat.div_div_eq_div_mul w 64 64
  have hw' := Nat.div_div_eq_div_mul w 4096 64
  unfold charOctets
  split_ifs <;> simp only [List.cons_append, List.nil_append, List.cons_lt_cons_iff] <;> omega

/-! ### Texts -/

/-- The octets of a text are those of its characters, one after another. -/
theorem octets_eq_flatMap (s : String) : octets s = s.toList.flatMap (charOctets ·.toNat) := by
  have hdata : s.toUTF8.data.toList = s.toList.flatMap String.utf8EncodeChar := by
    rw [String.toUTF8, ← String.utf8Encode_toList, List.utf8Encode, List.data_toByteArray]
  rw [octets, hdata, List.map_flatMap]
  exact congrArg (s.toList.flatMap ·) (funext map_toNat_utf8EncodeChar)

theorem flatMap_charOctets_lt {l m : List Char} (h : l < m) :
    l.flatMap (charOctets ·.toNat) < m.flatMap (charOctets ·.toNat) := by
  induction h with
  | @nil d m =>
    obtain ⟨x, xs, hx⟩ := List.exists_cons_of_ne_nil (charOctets_ne_nil d.toNat)
    rw [List.flatMap_nil, List.flatMap_cons, hx]
    exact List.nil_lt_cons x _
  | @cons c l m _ ih =>
    rw [List.flatMap_cons, List.flatMap_cons]
    exact List.append_left_lt ih
  | @rel c l d m hlt =>
    rw [List.flatMap_cons, List.flatMap_cons]
    exact charOctets_append_lt hlt _ _

/-- A smaller text has smaller octets. -/
theorem octets_strictMono : StrictMono octets := fun s t h => by
  rw [octets_eq_flatMap, octets_eq_flatMap]
  exact flatMap_charOctets_lt (String.lt_iff_toList_lt.mp h)

/-- **The octets of texts are ordered as the texts.** -/
theorem octets_lt_iff {s t : String} : octets s < octets t ↔ s < t :=
  octets_strictMono.lt_iff_lt

theorem octets_injective : Function.Injective octets := octets_strictMono.injective

end PartitionRouting
