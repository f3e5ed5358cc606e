import PartitionRouting.Json.Decode
import PartitionRouting.Proofs.Json.Layout

/-!
# How values are written

A value is written by its tokens, and what is written for them is read back as the value it
was written for.  Of a string it only matters what it spells: a character may be written as
itself, by an escape, or by the numbers of one or two units.

## Main definitions

* `Json.Value.tokens` — the tokens of a value.
* `Json.Value.Written` — what may be written for a value.
* `Json.PiecesFor`, `Json.Spelling.Spells` — the pieces that a character, and a text, may be
  written with.

## Main results

* `Json.read?_of_written` — **values are read back from whatever is written for them.**
* `Json.Spelling.text?_eq_some_iff` — a written string stands for the text that it spells.
-/

namespace PartitionRouting
namespace Json

/-! ### The tokens of a value -/

mutual
/-- The tokens of a value. -/
def Value.tokens : Value → List Token
  | .null => [.null]
  | .bool b => [.bool b]
  | .number digits => [.number digits]
  | .string s => [.string s]
  | .array [] => [.openArray, .closeArray]
  | .array (v :: items) => .openArray :: (v.tokens ++ (laterItems items ++ [.closeArray]))
  | .object [] => [.openObject, .closeObject]
  | .object ((key, v) :: members) =>
    .openObject :: .string key :: .colon :: (v.tokens ++ (laterMembers members ++ [.closeObject]))

/-- The tokens of the items of an array after the first. -/
def laterItems : List Value → List Token
  | [] => []
  | v :: items => .comma :: (v.tokens ++ laterItems items)

/-- The tokens of the members of an object after the first. -/
def laterMembers : List (Spelling × Value) → List Token
  | [] => []
  | (key, v) :: members => .comma :: .string key :: .colon :: (v.tokens ++ laterMembers members)
end

/-- **What is written for a value.** -/
def Value.Written (v : Value) (w : List Char) : Prop := Layout v.tokens w

/-- The first token of a value is not the end of an array. -/
theorem Value.exists_head_token (v : Value) :
    ∃ t ts, v.tokens = t :: ts ∧ t ≠ .closeArray := by
  cases v with
  | array items => cases items <;> exact ⟨_, _, by rw [tokens], Token.noConfusion⟩
  | object members => cases members <;> exact ⟨_, _, by rw [tokens], Token.noConfusion⟩
  | _ => exact ⟨_, _, by rw [tokens], Token.noConfusion⟩

/-! ### Reading tokens -/

namespace Reading

/-- Where the array may end, a value is read as anywhere. -/
theorem foldlM_tokens_itemOrEnd (v : Value) (stack : List Frame) :
    v.tokens.foldlM step (within stack .itemOrEnd) =
      v.tokens.foldlM step (within stack .value) := by
  obtain ⟨t, ts, hts, ht⟩ := v.exists_head_token
  have hstep : (within stack .itemOrEnd).step t = (within stack .value).step t := if_neg ht
  rw [hts, List.foldlM_cons, List.foldlM_cons, hstep]

theorem foldlM_cons_of_step {r r' : Reading} {t : Token} (h : r.step t = some r')
    (ts : List Token) : (t :: ts).foldlM step r = ts.foldlM step r' := by
  rw [List.foldlM_cons, h]
  rfl

theorem foldlM_append_of_eq {r r' : Reading} {ts : List Token} (h : ts.foldlM step r = some r')
    (us : List Token) : (ts ++ us).foldlM step r = us.foldlM step r' := by
  rw [List.foldlM_append, h]
  rfl

theorem foldlM_singleton (r : Reading) (t : Token) : [t].foldlM step r = r.step t := by
  rw [List.foldlM_cons]
  cases r.step t <;> rfl

theorem step_openArray (stack : List Frame) : (within stack .value).step .openArray =
    some (within (.array [] :: stack) .itemOrEnd) := rfl

theorem step_openObject (stack : List Frame) : (within stack .value).step .openObject =
    some (within (.object [] :: stack) .keyOrEnd) := rfl

/-- A key and its colon are read where a key may stand. -/
theorem foldlM_key {r : Reading} {read : List (Spelling × Value)} {key : Spelling}
    {stack : List Frame}
    (h : r.step (.string key) = some (within (.member read key :: stack) .colon))
    (ts : List Token) : (.string key :: .colon :: ts).foldlM step r =
      ts.foldlM step (within (.member read key :: stack) .value) := by
  have hcolon : (within (.member read key :: stack) .colon).step .colon =
    some (within (.member read key :: stack) .value) := rfl
  rw [foldlM_cons_of_step h, foldlM_cons_of_step hcolon]

-- by recursion on the value: what has been read of the innermost frame is kept latest first,
-- so the later items and members are read onto any list of earlier ones
mutual
/-- **The tokens of a value are read as that value.** -/
theorem foldlM_tokens (v : Value) (stack : List Frame) :
    v.tokens.foldlM step (within stack .value) = close v stack := by
  match v with
  | .null => rw [Value.tokens, foldlM_singleton, step, stepValue]
  | .bool b => rw [Value.tokens, foldlM_singleton, step, stepValue]
  | .number digits => rw [Value.tokens, foldlM_singleton, step, stepValue]
  | .string s => rw [Value.tokens, foldlM_singleton, step, stepValue]
  | .array [] =>
    rw [Value.tokens, foldlM_cons_of_step (step_openArray stack), foldlM_singleton]
    rfl
  | .array (v :: items) =>
    -- where the array may end, an item is read as if it had to come
    have hfirst := foldlM_tokens v (.array [] :: stack)
    have hlater := foldlM_laterItems items [v] stack
    rw [← foldlM_tokens_itemOrEnd] at hfirst
    rw [Value.tokens, foldlM_cons_of_step (step_openArray stack), foldlM_append_of_eq hfirst,
      foldlM_append_of_eq hlater, foldlM_singleton]
    show close (.array (items.reverse ++ [v]).reverse) stack = _
    rw [← List.reverse_cons, List.reverse_reverse]
  | .object [] =>
    rw [Value.tokens, foldlM_cons_of_step (step_openObject stack), foldlM_singleton]
    rfl
  | .object ((key, v) :: members) =>
    have hkey : (within (.object [] :: stack) .keyOrEnd).step (.string key) =
      some (within (.member [] key :: stack) .colon) := rfl
    have hfirst := foldlM_tokens v (.member [] key :: stack)
    have hlater := foldlM_laterMembers members [(key, v)] stack
    rw [Value.tokens, foldlM_cons_of_step (step_openObject stack), foldlM_key hkey,
      foldlM_append_of_eq hfirst, foldlM_append_of_eq hlater, foldlM_singleton]
    show close (.object (members.reverse ++ [(key, v)]).reverse) stack = _
    rw [← List.reverse_cons, List.reverse_reverse]

theorem foldlM_laterItems (items read : List Value) (stack : List Frame) :
    (laterItems items).foldlM step (within (.array read :: stack) .commaOrEnd) =
      some (within (.array (items.reverse ++ read) :: stack) .commaOrEnd) := by
  match items with
  | [] => rw [laterItems]; rfl
  | v :: items =>
    have hcomma : (within (.array read :: stack) .commaOrEnd).step .comma =
      some (within (.array read :: stack) .value) := rfl
    have hfirst := foldlM_tokens v (.array read :: stack)
    have hlater := foldlM_laterItems items (v :: read) stack
    rw [laterItems, foldlM_cons_of_step hcomma, foldlM_append_of_eq hfirst, hlater,
      List.reverse_cons, List.append_assoc]
    rfl

theorem foldlM_laterMembers (members read : List (Spelling × Value)) (stack : List Frame) :
    (laterMembers members).foldlM step (within (.object read :: stack) .commaOrEnd) =
      some (within (.object (members.reverse ++ read) :: stack) .commaOrEnd) := by
  match members with
  | [] => rw [laterMembers]; rfl
  | (key, v) :: members =>
    have hcomma : (within (.object read :: stack) .commaOrEnd).step .comma =
      some (within (.object read :: stack) .key) := rfl
    have hkey : (within (.object read :: stack) .key).step (.string key) =
      some (within (.member read key :: stack) .colon) := rfl
    have hfirst := foldlM_tokens v (.member read key :: stack)
    have hlater := foldlM_laterMembers members ((key, v) :: read) stack
    rw [laterMembers, foldlM_cons_of_step hcomma, foldlM_key hkey, foldlM_append_of_eq hfirst,
      hlater, List.reverse_cons, List.append_assoc]
    rfl
end

end Reading

theorem ofTokens?_tokens (v : Value) : Value.ofTokens? v.tokens = some v := by
  rw [Value.ofTokens?, Reading.start, Reading.foldlM_tokens]
  rfl

/-! ### The words of a value -/

/-- What may follow a word: no word comes first, and none follows another. -/
structure Apart (ts : List Token) : Prop where
  /-- No word comes first. -/
  head : ∀ t ∈ ts.head?, ¬t.isWord
  /-- No word follows another. -/
  spaced : Spaced ts

/-- Any token may stand before what may follow a word. -/
theorem Apart.cons {ts : List Token} (h : Apart ts) (t : Token) : Spaced (t :: ts) :=
  List.isChain_cons.mpr ⟨fun u hu _ => h.head u hu, h.spaced⟩

theorem spaced_cons {t : Token} {ts : List Token} (ht : t.isWord = false) (hts : Spaced ts) :
    Spaced (t :: ts) := List.isChain_cons.mpr ⟨fun u _ hword => by simp [ht] at hword, hts⟩

/-- A token that is no word ends one. -/
theorem apart_cons {t : Token} {ts : List Token} (ht : t.isWord = false) (hts : Spaced ts) :
    Apart (t :: ts) := ⟨by simpa using ht, spaced_cons ht hts⟩

mutual
/-- The words of a value stand apart, from each other and from what follows the value. -/
theorem spaced_tokens (v : Value) {ts : List Token} (hts : Apart ts) :
    Spaced (v.tokens ++ ts) := by
  match v with
  | .null => rw [Value.tokens]; exact hts.cons _
  | .bool b => rw [Value.tokens]; exact hts.cons _
  | .number digits => rw [Value.tokens]; exact hts.cons _
  | .string s => rw [Value.tokens]; exact hts.cons _
  | .array [] => rw [Value.tokens]; exact spaced_cons rfl (hts.cons _)
  | .array (v :: items) =>
    -- a comma or a bracket keeps the value apart from what follows
    have hlater := apart_laterItems items (apart_cons rfl hts.spaced : Apart (.closeArray :: ts))
    rw [Value.tokens, List.cons_append, List.append_assoc, List.append_assoc]
    exact spaced_cons rfl (spaced_tokens v hlater)
  | .object [] => rw [Value.tokens]; exact spaced_cons rfl (hts.cons _)
  | .object ((key, v) :: members) =>
    have hlater := apart_laterMembers members
      (apart_cons rfl hts.spaced : Apart (.closeObject :: ts))
    rw [Value.tokens]
    simp only [List.cons_append, List.append_assoc, List.nil_append]
    exact spaced_cons rfl (spaced_cons rfl (spaced_cons rfl (spaced_tokens v hlater)))

theorem apart_laterItems (items : List Value) {ts : List Token} (hts : Apart ts) :
    Apart (laterItems items ++ ts) := by
  match items with
  | [] => rwa [laterItems]
  | v :: items =>
    rw [laterItems, List.cons_append, List.append_assoc]
    exact apart_cons rfl (spaced_tokens v (apart_laterItems items hts))

theorem apart_laterMembers (members : List (Spelling × Value)) {ts : List Token}
    (hts : Apart ts) : Apart (laterMembers members ++ ts) := by
  match members with
  | [] => rwa [laterMembers]
  | (key, v) :: members =>
    have hrest := spaced_tokens v (apart_laterMembers members hts)
    rw [laterMembers, List.cons_append, List.cons_append, List.cons_append, List.append_assoc]
    exact apart_cons rfl (spaced_cons rfl (spaced_cons rfl hrest))
end

/-- **A document is read as the value that it was written for.** -/
theorem read?_of_written {v : Value} {document : String} (h : v.Written document.toList) :
    read? document = some v := by
  have hspaced : Spaced (v.tokens ++ []) := spaced_tokens v ⟨by simp, List.isChain_nil⟩
  rw [List.append_nil] at hspaced
  rw [read?, tokens?_of_layout h hspaced]
  exact ofTokens?_tokens v

/-! ### What a string spells -/

/-- **The pieces that a character may be written with.** -/
inductive PiecesFor : Char → List Piece → Prop
  /-- Itself. -/
  | plain (c : Char) : PiecesFor c [.plain c]
  /-- Its escape. -/
  | short (c : Char) : PiecesFor c [.short c]
  /-- Its number. -/
  | unit {c : Char} {code : UInt16} (h : code.toNat = c.toNat) : PiecesFor c [.unit code]
  /-- Two halves, if its number does not fit into a unit. -/
  | halves {c : Char} {high low : UInt16} {i j : ℕ} (hi : i < 0x400) (hj : j < 0x400)
    (hhigh : high.toNat = 0xd800 + i) (hlow : low.toNat = 0xdc00 + j)
    (h : c.toNat = 0x10000 + i * 0x400 + j) : PiecesFor c [.unit high, .unit low]

/-- **The texts that a written string spells**, character by character. -/
inductive Spelling.Spells : Spelling → List Char → Prop
  /-- Nothing. -/
  | nil : Spells [] []
  /-- A character and the rest. -/
  | cons {c : Char} {ps s : List Piece} {cs : List Char} (hp : PiecesFor c ps)
    (hs : Spells s cs) : Spells (ps ++ s) (c :: cs)

theorem isHighHalf_iff {code : UInt16} :
    isHighHalf code ↔ 0xd800 ≤ code.toNat ∧ code.toNat < 0xdc00 := by
  simp [isHighHalf, UInt16.le_iff_toNat_le, UInt16.lt_iff_toNat_lt]

theorem isLowHalf_iff {code : UInt16} :
    isLowHalf code ↔ 0xdc00 ≤ code.toNat ∧ code.toNat < 0xe000 := by
  simp [isLowHalf, UInt16.le_iff_toNat_le, UInt16.lt_iff_toNat_lt]

/-- Every number but those of the halves is that of a character. -/
theorem isValidChar_iff {code : UInt16} :
    code.toNat.isValidChar ↔ ¬isHighHalf code ∧ ¬isLowHalf code := by
  rw [isHighHalf_iff, isLowHalf_iff, Nat.isValidChar]
  have := code.toNat_lt
  omega

/-- A unit that is no half stands for a character by itself. -/
theorem Spelling.chars?_unit {code : UInt16} (h : code.toNat.isValidChar) (s : Spelling) :
    chars? (.unit code :: s) = (chars? s).map (Char.ofNat code.toNat :: ·) := by
  obtain ⟨hhigh, hlow⟩ := isValidChar_iff.mp h
  cases s with
  | nil => simp [chars?, hhigh, hlow]
  | cons p s => cases p <;> simp [chars?, hhigh, hlow]

theorem Spelling.chars?_append {c : Char} {ps : List Piece} (hp : PiecesFor c ps) (s : Spelling) :
    chars? (ps ++ s) = (chars? s).map (c :: ·) := by
  cases hp with
  | plain => rw [List.cons_append, chars?]; rfl
  | short => rw [List.cons_append, chars?]; rfl
  | @unit code h =>
    have hvalid : code.toNat.isValidChar := h ▸ c.valid
    rw [List.cons_append, List.nil_append, chars?_unit hvalid, h, Char.ofNat_toNat]
  | @halves high low i j hi hj hhigh hlow h =>
    -- two halves of a character are read as one
    have hhalves : isHighHalf high ∧ isLowHalf low := by
      rw [isHighHalf_iff, isLowHalf_iff]
      omega
    have hjoin : joinHalves high low = c := by
      rw [joinHalves, hhigh, hlow, Nat.add_sub_cancel_left, Nat.add_sub_cancel_left, ← h,
        Char.ofNat_toNat]
    simp [chars?, hhalves, hjoin]

theorem Spelling.chars?_of_spells {s : Spelling} {cs : List Char} (h : Spells s cs) :
    chars? s = some cs := by
  induction h with
  | nil => rfl
  | cons hp _ ih => rw [chars?_append hp, ih, Option.map_some]

theorem toNat_ofNat_of_isValidChar {n : ℕ} (h : n.isValidChar) : (Char.ofNat n).toNat = n := by
  rw [Char.ofNat, dif_pos h]
  rfl

/-- The halves of a character are its number, less that of the first beyond the plane. -/
theorem piecesFor_joinHalves {high low : UInt16} (hhigh : isHighHalf high)
    (hlow : isLowHalf low) : PiecesFor (joinHalves high low) [.unit high, .unit low] := by
  rw [isHighHalf_iff] at hhigh
  rw [isLowHalf_iff] at hlow
  obtain ⟨i, hi⟩ := Nat.exists_eq_add_of_le hhigh.1
  obtain ⟨j, hj⟩ := Nat.exists_eq_add_of_le hlow.1
  have hvalid : (0x10000 + i * 0x400 + j).isValidChar := by
    rw [Nat.isValidChar]
    omega
  refine .halves (by omega) (by omega) hi hj ?_
  rw [joinHalves, hi, hj, Nat.add_sub_cancel_left, Nat.add_sub_cancel_left,
    toNat_ofNat_of_isValidChar hvalid]

theorem piecesFor_unit {code : UInt16} (h : code.toNat.isValidChar) :
    PiecesFor (Char.ofNat code.toNat) [.unit code] :=
  .unit (toNat_ofNat_of_isValidChar h).symm

theorem Spelling.spells_of_chars? (s : Spelling) (cs : List Char) (h : chars? s = some cs) :
    Spells s cs := by
  induction s using chars?.induct generalizing cs with
  | case1 =>
    obtain rfl : [] = cs := Option.some.inj h
    exact .nil
  | case2 c s ih =>
    obtain ⟨rest, hrest, rfl⟩ := Option.map_eq_some_iff.mp h
    exact .cons (.plain c) (ih rest hrest)
  | case3 c s ih =>
    obtain ⟨rest, hrest, rfl⟩ := Option.map_eq_some_iff.mp h
    exact .cons (.short c) (ih rest hrest)
  -- two units are one character if they are the halves of one
  | case4 high low s hhalves ih =>
    rw [chars?, if_pos hhalves] at h
    obtain ⟨rest, hrest, rfl⟩ := Option.map_eq_some_iff.mp h
    rw [Bool.and_eq_true] at hhalves
    exact .cons (piecesFor_joinHalves hhalves.1 hhalves.2) (ih rest hrest)
  -- a half that stands alone is no character
  | case5 high low s hhalves halone =>
    rw [chars?, if_neg hhalves, if_pos halone] at h
    contradiction
  | case6 high low s hhalves halone ih =>
    rw [chars?, if_neg hhalves, if_neg halone] at h
    obtain ⟨rest, hrest, rfl⟩ := Option.map_eq_some_iff.mp h
    exact .cons (piecesFor_unit (isValidChar_iff.mpr (by simpa using halone))) (ih rest hrest)
  | case7 code s hs halone =>
    rw [chars?.eq_5 _ _ hs, if_pos halone] at h
    contradiction
  | case8 code s hs halone ih =>
    rw [chars?_unit (isValidChar_iff.mpr (by simpa using halone))] at h
    obtain ⟨rest, hrest, rfl⟩ := Option.map_eq_some_iff.mp h
    exact .cons (piecesFor_unit (isValidChar_iff.mpr (by simpa using halone))) (ih rest hrest)

/-- **A written string stands for the text that it spells.** -/
theorem Spelling.text?_eq_some_iff {s : Spelling} {t : String} :
    s.text? = some t ↔ s.Spells t.toList := by
  rw [text?, Option.map_eq_some_iff]
  constructor
  · rintro ⟨cs, hcs, rfl⟩
    rw [String.toList_ofList]
    exact spells_of_chars? s cs hcs
  · intro h
    exact ⟨t.toList, chars?_of_spells h, String.ofList_toList⟩

end Json
end PartitionRouting
