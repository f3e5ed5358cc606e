import Mathlib.Data.Nat.ModEq
import Mathlib.Data.Nat.Prime.Basic
import Mathlib.Tactic.IntervalCases
import PartitionRouting.Selection.Digest

/-!
# The digest tells neighbours apart

The digest has no key and is no one-way function: every step that it takes can be undone.  A
rotation keeps all bits, a product with an odd number can be divided again, and a word can be
found from its sum with its own upper part, from the top down.  So with the rest of the bytes
given, the lanes after a block determine the lanes before it, and also the block.  Lists of
bytes that are equally long and differ in one block only therefore have different digests.

## Main definitions

* `AlikeOutsideBlock` — lists of bytes that differ in one block at most.
* `digested` — the bytes that the digest of a request and an endpoint is taken of.

## Main results

* `Digest.rotate_injective`, `mul_injective_of_odd`, `xor_shiftRight_injective` — operations on
  words that can be undone.
* `Digest.absorb_injective`, `absorb_left_injective` — a full block changes the lanes
  reversibly, and two blocks change them to different ones.
* `Digest.eq_of_absorbAll_eq` — **the lanes after all bytes tell the blocks apart**.
* `digests_apart` — **the digest tells requests apart**, and endpoints whose names differ in
  one block only.
-/

namespace PartitionRouting

open Function

theorem Quad.ext {x y : Quad} (h₁ : x.w₁ = y.w₁) (h₂ : x.w₂ = y.w₂) (h₃ : x.w₃ = y.w₃)
    (h₄ : x.w₄ = y.w₄) : x = y := by
  cases x
  cases y
  simp_all

/-- The lanes are the digits of their number. -/
theorem Quad.toNat_injective : Injective Quad.toNat := by
  intro x y hxy
  have hsize : UInt32.size = 4294967296 := rfl
  simp only [toNat, hsize] at hxy
  have hx₁ := x.w₁.toNat_lt_size
  have hx₂ := x.w₂.toNat_lt_size
  have hx₃ := x.w₃.toNat_lt_size
  have hy₁ := y.w₁.toNat_lt_size
  have hy₂ := y.w₂.toNat_lt_size
  have hy₃ := y.w₃.toNat_lt_size
  rw [hsize] at hx₁ hx₂ hx₃ hy₁ hy₂ hy₃
  refine Quad.ext ?_ ?_ ?_ ?_ <;> exact UInt32.toNat_inj.mp (by omega)

namespace Digest

variable {r : UInt32}

/-! ### Operations on words -/

/-- The bits of a word are turned round by a rotation. -/
theorem getLsbD_rotate (x : UInt32) (hr : 0 < r.toNat ∧ r.toNat < 32) {i : ℕ} (hi : i < 32) :
    (rotate x r).toBitVec.getLsbD ((i + r.toNat) % 32) = x.toBitVec.getLsbD i := by
  obtain ⟨hpos, hlt⟩ := hr
  have hback : (32 - r).toNat = 32 - r.toNat := by
    rw [UInt32.toNat_sub_of_le _ _ (UInt32.le_iff_toNat_le.mpr hlt.le)]
    rfl
  have hwidth : BitVec.toNat (32 : BitVec 32) = 32 := rfl
  simp only [rotate, UInt32.toBitVec_or, UInt32.toBitVec_shiftLeft, UInt32.toBitVec_shiftRight,
    BitVec.getLsbD_or, BitVec.shiftLeft_eq', BitVec.ushiftRight_eq', BitVec.getLsbD_shiftLeft,
    BitVec.getLsbD_ushiftRight, BitVec.toNat_umod, UInt32.toNat_toBitVec, hback, hwidth]
  rw [Nat.mod_eq_of_lt hlt, Nat.mod_eq_of_lt (by omega : 32 - r.toNat < 32)]
  by_cases hwrap : i + r.toNat < 32
  · -- nothing comes from the right to where the bit goes
    have hout : x.toBitVec.getLsbD (32 - r.toNat + (i + r.toNat)) = false :=
      BitVec.getLsbD_of_ge _ _ (by omega)
    rw [Nat.mod_eq_of_lt hwrap, hout, Nat.add_sub_cancel]
    simp [hwrap]
  · have hwrapped : (i + r.toNat) % 32 = i + r.toNat - 32 := by omega
    have hplace : 32 - r.toNat + (i + r.toNat - 32) = i := by omega
    have hlow : i + r.toNat - 32 < r.toNat := by omega
    rw [hwrapped, hplace]
    simp [hlow]

/-- **A rotation keeps all bits.** -/
theorem rotate_injective (hr : 0 < r.toNat ∧ r.toNat < 32) : Injective (rotate · r) := by
  intro x y hxy
  refine UInt32.toBitVec_inj.mp (BitVec.eq_of_getLsbD_eq fun i hi => ?_)
  have hbits := congrArg (fun z : UInt32 => z.toBitVec.getLsbD ((i + r.toNat) % 32)) hxy
  rwa [getLsbD_rotate x hr hi, getLsbD_rotate y hr hi] at hbits

/-- **A product with an odd number can be divided again.** -/
theorem mul_injective_of_odd {a : UInt32} (ha : a.toNat % 2 = 1) : Injective (· * a) := by
  intro x y hxy
  have hcoprime : Nat.gcd UInt32.size a.toNat = 1 :=
    Nat.Coprime.pow_left 32 (Nat.coprime_two_left.mpr (Nat.odd_iff.mpr ha))
  have hmod : x.toNat * a.toNat ≡ y.toNat * a.toNat [MOD UInt32.size] := by
    have hnat := congrArg UInt32.toNat hxy
    rwa [UInt32.toNat_mul, UInt32.toNat_mul] at hnat
  have hcancel := Nat.ModEq.cancel_right_of_coprime hcoprime hmod
  exact UInt32.toNat_inj.mp (hcancel.eq_of_lt_of_lt x.toNat_lt_size y.toNat_lt_size)

/-- **A word can be found from its sum with its own upper part.** -/
theorem xor_shiftRight_injective (hr : 0 < r.toNat ∧ r.toNat < 32) :
    Injective fun x : UInt32 => x ^^^ (x >>> r) := by
  intro x y hxy
  have hzero : (x ^^^ y) ^^^ ((x ^^^ y) >>> r) = 0 := by
    calc (x ^^^ y) ^^^ ((x ^^^ y) >>> r)
      _ = (x ^^^ y) ^^^ ((x >>> r) ^^^ (y >>> r)) := by rw [UInt32.shiftRight_xor]
      _ = (x ^^^ (x >>> r)) ^^^ (y ^^^ (y >>> r)) := by ac_rfl
      _ = 0 := UInt32.xor_eq_zero_iff.mpr hxy
  -- the difference is its own upper part, and too small for that unless it is zero
  have hupper := congrArg UInt32.toNat (UInt32.xor_eq_zero_iff.mp hzero)
  rw [UInt32.toNat_shiftRight, Nat.mod_eq_of_lt hr.2, Nat.shiftRight_eq_div_pow] at hupper
  have hnone : (x ^^^ y).toNat = 0 := by
    by_contra hne
    have hlt := Nat.div_lt_self (Nat.pos_of_ne_zero hne) (Nat.one_lt_two_pow hr.1.ne')
    omega
  exact UInt32.xor_eq_zero_iff.mp (UInt32.toNat_inj.mp hnone)

theorem scrambleWord_injective {a b : UInt32} (ha : a.toNat % 2 = 1)
    (hr : 0 < r.toNat ∧ r.toNat < 32) (hb : b.toNat % 2 = 1) :
    Injective (scrambleWord a r b) :=
  (mul_injective_of_odd hb).comp ((rotate_injective hr).comp (mul_injective_of_odd ha))

theorem stirWord_injective (hr : 0 < r.toNat ∧ r.toNat < 32) (add neighbour : UInt32) :
    Injective (stirWord r add · neighbour) := by
  intro x y hxy
  have hproduct := (UInt32.add_left_inj add).mp hxy
  have hsum := mul_injective_of_odd (by decide : (5 : UInt32).toNat % 2 = 1) hproduct
  exact rotate_injective hr ((UInt32.add_left_inj neighbour).mp hsum)

theorem finishWord_injective : Injective finishWord := by
  have hshift16 : Injective fun x : UInt32 => x ^^^ (x >>> 16) :=
    xor_shiftRight_injective (by decide)
  have hshift13 : Injective fun x : UInt32 => x ^^^ (x >>> 13) :=
    xor_shiftRight_injective (by decide)
  have hfirst : Injective (· * (0x85ebca6b : UInt32)) := mul_injective_of_odd (by decide)
  have hsecond : Injective (· * (0xc2b2ae35 : UInt32)) := mul_injective_of_odd (by decide)
  exact hshift16.comp (hsecond.comp (hshift13.comp (hfirst.comp hshift16)))

/-! ### Operations on lanes -/

theorem xor_right_injective (k : Quad) : Injective (Quad.xor · k) := by
  intro x y hxy
  obtain ⟨h₁, h₂, h₃, h₄⟩ := Quad.mk.inj hxy
  rw [UInt32.xor_left_inj] at h₁ h₂ h₃ h₄
  exact Quad.ext h₁ h₂ h₃ h₄

theorem xor_left_injective (h : Quad) : Injective h.xor := by
  intro x y hxy
  obtain ⟨h₁, h₂, h₃, h₄⟩ := Quad.mk.inj hxy
  rw [UInt32.xor_right_inj] at h₁ h₂ h₃ h₄
  exact Quad.ext h₁ h₂ h₃ h₄

theorem scramble_injective : Injective scramble := by
  intro x y hxy
  obtain ⟨h₁, h₂, h₃, h₄⟩ := Quad.mk.inj hxy
  have hw₁ := scrambleWord_injective (by decide) (by decide) (by decide) h₁
  have hw₂ := scrambleWord_injective (by decide) (by decide) (by decide) h₂
  have hw₃ := scrambleWord_injective (by decide) (by decide) (by decide) h₃
  have hw₄ := scrambleWord_injective (by decide) (by decide) (by decide) h₄
  exact Quad.ext hw₁ hw₂ hw₃ hw₄

/-- **A full block changes the lanes reversibly**: the last lane was changed last, so it can be
changed back first. -/
theorem absorb_injective (k : Quad) : Injective (absorb · k) := by
  intro x y hxy
  obtain ⟨h₁, h₂, h₃, h₄⟩ := Quad.mk.inj hxy
  rw [h₁] at h₄
  have hw₄ := (UInt32.xor_left_inj _).mp (stirWord_injective (by decide) _ _ h₄)
  rw [hw₄] at h₃
  have hw₃ := (UInt32.xor_left_inj _).mp (stirWord_injective (by decide) _ _ h₃)
  rw [hw₃] at h₂
  have hw₂ := (UInt32.xor_left_inj _).mp (stirWord_injective (by decide) _ _ h₂)
  rw [hw₂] at h₁
  have hw₁ := (UInt32.xor_left_inj _).mp (stirWord_injective (by decide) _ _ h₁)
  exact Quad.ext hw₁ hw₂ hw₃ hw₄

/-- **Two blocks change the same lanes to different ones.** -/
theorem absorb_left_injective (h : Quad) : Injective (absorb h) := by
  intro x y hxy
  obtain ⟨h₁, h₂, h₃, h₄⟩ := Quad.mk.inj hxy
  rw [h₁] at h₄
  have hw₁ := (UInt32.xor_right_inj _).mp (stirWord_injective (by decide) _ _ h₁)
  have hw₂ := (UInt32.xor_right_inj _).mp (stirWord_injective (by decide) _ _ h₂)
  have hw₃ := (UInt32.xor_right_inj _).mp (stirWord_injective (by decide) _ _ h₃)
  have hw₄ := (UInt32.xor_right_inj _).mp (stirWord_injective (by decide) _ _ h₄)
  exact scramble_injective (Quad.ext hw₁ hw₂ hw₃ hw₄)

theorem spread_injective : Injective spread := by
  intro x y hxy
  obtain ⟨h₁, h₂, h₃, h₄⟩ := Quad.mk.inj hxy
  -- the first lane has become the sum, which was added to the others
  rw [h₁, UInt32.add_left_inj] at h₂ h₃ h₄
  rw [h₂, h₃, h₄, UInt32.add_left_inj, UInt32.add_left_inj, UInt32.add_left_inj] at h₁
  exact Quad.ext h₁ h₂ h₃ h₄

theorem finish_injective (length : UInt32) : Injective (finish · length) := by
  intro x y hxy
  obtain ⟨h₁, h₂, h₃, h₄⟩ := Quad.mk.inj (spread_injective hxy)
  have hsame := Quad.ext (finishWord_injective h₁) (finishWord_injective h₂)
    (finishWord_injective h₃) (finishWord_injective h₄)
  exact xor_right_injective _ (spread_injective hsame)

/-! ### Blocks of bytes -/

theorem toNat_word (b₀ b₁ b₂ b₃ : UInt8) :
    (word b₀ b₁ b₂ b₃).toNat =
      b₀.toNat + 256 * b₁.toNat + 65536 * b₂.toNat + 16777216 * b₃.toNat := by
  have h₀ := b₀.toNat_lt
  have h₁ := b₁.toNat_lt
  have h₂ := b₂.toNat_lt
  have h₃ := b₃.toNat_lt
  have hshifts : UInt32.toNat 8 % 32 = 8 ∧ UInt32.toNat 16 % 32 = 16 ∧
      UInt32.toNat 24 % 32 = 24 := ⟨rfl, rfl, rfl⟩
  simp only [word, UInt32.toNat_or, UInt32.toNat_shiftLeft, UInt8.toNat_toUInt32, hshifts]
  rw [Nat.mod_eq_of_lt (by omega : b₁.toNat <<< 8 < _),
    Nat.mod_eq_of_lt (by omega : b₂.toNat <<< 16 < _),
    Nat.mod_eq_of_lt (by omega : b₃.toNat <<< 24 < _)]
  -- each byte stands above those before it
  have hsecond : b₀.toNat ||| b₁.toNat <<< 8 = b₁.toNat <<< 8 + b₀.toNat :=
    (Nat.or_comm _ _).trans (Nat.shiftLeft_add_eq_or_of_lt h₀ _).symm
  have hthird : b₁.toNat <<< 8 + b₀.toNat ||| b₂.toNat <<< 16 =
      b₂.toNat <<< 16 + (b₁.toNat <<< 8 + b₀.toNat) :=
    (Nat.or_comm _ _).trans (Nat.shiftLeft_add_eq_or_of_lt (by omega) _).symm
  have hfourth : b₂.toNat <<< 16 + (b₁.toNat <<< 8 + b₀.toNat) ||| b₃.toNat <<< 24 =
      b₃.toNat <<< 24 + (b₂.toNat <<< 16 + (b₁.toNat <<< 8 + b₀.toNat)) :=
    (Nat.or_comm _ _).trans (Nat.shiftLeft_add_eq_or_of_lt (by omega) _).symm
  rw [hsecond, hthird, hfourth]
  omega

theorem word_inj {a₀ a₁ a₂ a₃ b₀ b₁ b₂ b₃ : UInt8}
    (h : word a₀ a₁ a₂ a₃ = word b₀ b₁ b₂ b₃) : a₀ = b₀ ∧ a₁ = b₁ ∧ a₂ = b₂ ∧ a₃ = b₃ := by
  have hnat := congrArg UInt32.toNat h
  rw [toNat_word, toNat_word] at hnat
  have ha₀ := a₀.toNat_lt
  have ha₁ := a₁.toNat_lt
  have ha₂ := a₂.toNat_lt
  have hb₀ := b₀.toNat_lt
  have hb₁ := b₁.toNat_lt
  have hb₂ := b₂.toNat_lt
  refine ⟨?_, ?_, ?_, ?_⟩ <;> exact UInt8.toNat_inj.mp (by omega)

variable {x y : List UInt8}

theorem getD_eq_of_block_eq (h : block x = block y) : ∀ i < 16, x.getD i 0 = y.getD i 0 := by
  obtain ⟨h₁, h₂, h₃, h₄⟩ := Quad.mk.inj h
  obtain ⟨b₀, b₁, b₂, b₃⟩ := word_inj h₁
  obtain ⟨b₄, b₅, b₆, b₇⟩ := word_inj h₂
  obtain ⟨b₈, b₉, b₁₀, b₁₁⟩ := word_inj h₃
  obtain ⟨b₁₂, b₁₃, b₁₄, b₁₅⟩ := word_inj h₄
  intro i hi
  interval_cases i <;> assumption

/-- Lists that are equally long begin alike if their first blocks are the same. -/
theorem take_eq_of_block_eq (hlength : x.length = y.length) (h : block x = block y) :
    x.take 16 = y.take 16 := by
  refine List.ext_getElem (by simp [hlength]) fun i hx hy => ?_
  have hi : i < 16 := hx.trans_le (List.length_take_le 16 x)
  rw [List.getElem_take, List.getElem_take, List.getElem_eq_getD 0, List.getElem_eq_getD 0]
  exact getD_eq_of_block_eq h i hi

/-- A block is made of the first sixteen bytes. -/
theorem block_take (x : List UInt8) {n : ℕ} (hn : 16 ≤ n) : block (x.take n) = block x := by
  have hbyte : ∀ i < 16, (x.take n).getD i 0 = x.getD i 0 := by
    intro i hi
    rw [List.getD_eq_getElem?_getD, List.getD_eq_getElem?_getD,
      List.getElem?_take_of_lt (by omega)]
  simp only [block, hbyte, Nat.reduceLT]

theorem absorbAll_injective (n : ℕ) (bytes : List UInt8) : Injective (absorbAll n · bytes) := by
  induction n generalizing bytes with
  | zero => exact xor_right_injective _
  | succ n ih => exact (ih (bytes.drop 16)).comp (absorb_injective _)

end Digest

/-- Lists of bytes that are equally long and **differ in one block at most**, a full one or what
is left after the last full one. -/
def AlikeOutsideBlock (x y : List UInt8) : Prop :=
  x.length = y.length ∧
    ∃ k, x.take (16 * k) = y.take (16 * k) ∧ x.drop (16 * (k + 1)) = y.drop (16 * (k + 1))

namespace Digest

variable {x y : List UInt8}

/-- **The lanes after all bytes tell the blocks apart.**  The blocks before the one that may
differ leave the same lanes, and those after it keep different lanes different. -/
theorem eq_of_absorbAll_eq {n k : ℕ} {h : Quad} (hlength : x.length = y.length)
    (hn : x.length < 16 * (n + 1)) (hbefore : x.take (16 * k) = y.take (16 * k))
    (hafter : x.drop (16 * (k + 1)) = y.drop (16 * (k + 1)))
    (heq : absorbAll n h x = absorbAll n h y) : x = y := by
  induction k generalizing n h x y with
  | zero =>
    have hblock : block x = block y := by
      cases n with
      | zero => exact scramble_injective (xor_left_injective h heq)
      | succ n =>
        rw [absorbAll, absorbAll, hafter] at heq
        exact absorb_left_injective h (absorbAll_injective n _ heq)
    have hfirst := take_eq_of_block_eq hlength hblock
    rw [← List.take_append_drop 16 x, ← List.take_append_drop 16 y, hfirst]
    exact congrArg _ hafter
  | succ k ih =>
    cases n with
    | zero =>
      -- there is no block after the first
      rwa [List.take_of_length_le (by omega), List.take_of_length_le (by omega)] at hbefore
    | succ n =>
      have hblock : block x = block y := by
        rw [← block_take x (by omega : 16 ≤ 16 * (k + 1)), hbefore, block_take y (by omega)]
      have hfirst := take_eq_of_block_eq hlength hblock
      rw [absorbAll, absorbAll, hblock] at heq
      have hlength' : (x.drop 16).length = (y.drop 16).length := by
        rw [List.length_drop, List.length_drop, hlength]
      have hbefore' : (x.drop 16).take (16 * k) = (y.drop 16).take (16 * k) := by
        have hdropped := congrArg (List.drop 16) hbefore
        rwa [List.drop_take, List.drop_take, (by omega : 16 * (k + 1) - 16 = 16 * k)]
          at hdropped
      have hafter' : (x.drop 16).drop (16 * (k + 1)) = (y.drop 16).drop (16 * (k + 1)) := by
        rwa [List.drop_drop, List.drop_drop, (by omega : 16 + 16 * (k + 1) = 16 * (k + 1 + 1))]
      have hrest := ih hlength' (by rw [List.length_drop]; omega) hbefore' hafter' heq
      rw [← List.take_append_drop 16 x, ← List.take_append_drop 16 y, hfirst, hrest]

end Digest

theorem eq_of_digestBytes_eq {x y : List UInt8} (h : AlikeOutsideBlock x y)
    (heq : digestBytes x = digestBytes y) : x = y := by
  obtain ⟨hlength, k, hbefore, hafter⟩ := h
  have hquads := Quad.toNat_injective heq
  rw [digestQuad, digestQuad, ← hlength] at hquads
  have hlanes := Digest.finish_injective _ hquads
  exact Digest.eq_of_absorbAll_eq hlength (by omega) hbefore hafter hlanes

/-! ### Requests -/

theorem requestBytes_injective : Injective requestBytes := by
  intro x y h
  simp only [requestBytes, List.cons.injEq, ← UInt8.toNat_inj, UInt64.toNat_toUInt8,
    UInt64.toNat_shiftRight, Nat.shiftRight_eq_div_pow, Nat.reducePow, UInt64.reduceToNat,
    Nat.reduceMod, and_true] at h
  have hx := x.toNat_lt
  have hy := y.toNat_lt
  exact UInt64.toNat_inj.mp (by omega)

theorem toList_loop (b : ByteArray) (i : ℕ) (l : List UInt8) :
    ByteArray.toList.loop b i l = l.reverse ++ b.data.toList.drop i := by
  fun_induction ByteArray.toList.loop b i l with
  | case1 i l hi ih =>
    have hdata : i < b.data.toList.length := hi
    rw [ih, List.drop_eq_getElem_cons hdata]
    simp [ByteArray.get!, hi]
  | case2 i l hi =>
    rw [List.drop_eq_nil_of_le (Nat.le_of_not_lt hi), List.append_nil]

theorem toList_eq_data (b : ByteArray) : b.toList = b.data.toList := toList_loop b 0 []

/-- The bytes that the digest of a request and an endpoint is taken of. -/
def digested (requestId : UInt64) (endpoint : Endpoint) : List UInt8 :=
  requestBytes requestId ++ endpoint.toUTF8.toList

theorem digested_inj {id id' : UInt64} {e e' : Endpoint} (h : digested id e = digested id' e') :
    (id, e) = (id', e') := by
  obtain ⟨hid, hname⟩ := List.append_inj h rfl
  rw [toList_eq_data, toList_eq_data, Array.toList_inj] at hname
  rw [requestBytes_injective hid, String.toByteArray_inj.mp (ByteArray.ext hname)]

/-- **The digest tells requests and endpoints apart** that it is taken of equally many bytes of
and that differ in one block only.  So no two requests have the same digest for an endpoint, and
no two endpoints for a request whose names are equally long and differ in one block only, where
the first block begins eight bytes before the name. -/
theorem digests_apart :
    (∀ {id id' : UInt64} {e e' : Endpoint}, (id, e) ≠ (id', e') →
      AlikeOutsideBlock (digested id e) (digested id' e') →
      requestDigest id e ≠ requestDigest id' e') ∧
    (∀ e, Injective fun id => requestDigest id e) ∧
    (∀ (id : UInt64) (k : ℕ) {e e' : Endpoint}, e ≠ e' → e.toUTF8.size = e'.toUTF8.size →
      e.toUTF8.toList.take (16 * k - 8) = e'.toUTF8.toList.take (16 * k - 8) →
      e.toUTF8.toList.drop (16 * k + 8) = e'.toUTF8.toList.drop (16 * k + 8) →
      requestDigest id e ≠ requestDigest id e') := by
  have hpairs : ∀ {id id' : UInt64} {e e' : Endpoint}, (id, e) ≠ (id', e') →
      AlikeOutsideBlock (digested id e) (digested id' e') →
      requestDigest id e ≠ requestDigest id' e' :=
    fun hne halike heq => hne (digested_inj (eq_of_digestBytes_eq halike heq))
  refine ⟨hpairs, fun e id id' heq => ?_, fun id k e e' hne hsize hbefore hafter => ?_⟩
  · by_contra hne
    refine hpairs (fun h => hne (congrArg Prod.fst h)) ⟨rfl, 0, rfl, ?_⟩ heq
    -- the bytes of a request are in the first block
    rfl
  · refine hpairs (fun h => hne (congrArg Prod.snd h)) ⟨?_, k, ?_, ?_⟩
    · rw [digested, digested, List.length_append, List.length_append, toList_eq_data,
        toList_eq_data]
      exact congrArg _ hsize
    · rw [digested, digested, List.take_append, List.take_append]
      exact congrArg _ hbefore
    · rw [digested, digested, List.drop_append, List.drop_append]
      exact congrArg _ hafter

/-- Two requests, and two endpoints whose names differ in the middle. -/
theorem digests_apart_of_neighbours :
    requestDigest 7 "a" ≠ requestDigest 8 "a" ∧
      requestDigest 7 "replica-10.internal:9000" ≠ requestDigest 7 "replica-20.internal:9000" := by
  obtain ⟨-, hrequests, hnames⟩ := digests_apart
  refine ⟨(hrequests "a").ne (by decide), hnames 7 1 (by decide) (by decide +kernel) ?_ ?_⟩
  · rw [toList_eq_data, toList_eq_data]
    decide +kernel
  · rw [toList_eq_data, toList_eq_data]
    decide +kernel

end PartitionRouting
