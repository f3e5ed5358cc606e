import PartitionRouting.Proofs.Json.Values

/-!
# What is read was written

What the grammar allows is read back.  Nothing else is read: a text that is read as a value was
written for it.  So the scan and the reader accept the documents of the grammar and no others.

## Main definitions

* `Json.Mode.Reads` — what has been scanned since the last token.
* `Json.Reading.Reads` — the tokens that have been read.

## Main results

* `Json.isNumber_iff` — the texts that are accepted as numbers.
* `Json.Mode.Reads.step`, `Json.Reading.Reads.step` — one character, one token further.
* `Json.read?_eq_some_iff` — **a document is read as the values that it was written for, and no
  others.**
-/

namespace PartitionRouting
namespace Json

/-! ### Numbers -/

theorem wholeText_of_isWhole {cs : List Char} (h : isWhole cs) : WholeText cs := by
  rw [isWhole, Bool.and_eq_true, isDigits_iff] at h
  obtain ⟨hrun, hzero⟩ := h
  obtain ⟨c, rest, rfl⟩ := List.exists_cons_of_ne_nil hrun.1
  by_cases hc : c = '0'
  · obtain ⟨rfl, rfl⟩ : c = '0' ∧ rest = [] := by simpa [hc] using hzero
    exact .zero
  · exact .run hc hrun

theorem exponentText_of_isExponent {cs : List Char} (h : isExponent cs) : ExponentText cs := by
  unfold isExponent at h
  split at h
  · exact .none
  · next e rest =>
    rw [Bool.and_eq_true] at h
    obtain ⟨he, hrest⟩ := h
    have hletter : e ∈ ['e', 'E'] := by simpa using he
    -- the sign of the exponent may be left out
    split at hrest
    · next ds => exact @ExponentText.digits e ['+'] ds hletter (by simp) (isDigits_iff.mp hrest)
    · next ds => exact @ExponentText.digits e ['-'] ds hletter (by simp) (isDigits_iff.mp hrest)
    · exact @ExponentText.digits e [] rest hletter (by simp) (isDigits_iff.mp hrest)

/-- What follows the whole part of a number is a fraction and an exponent. -/
theorem exists_of_isNumberTail {cs : List Char} (h : isNumberTail cs) :
    ∃ f e, cs = f ++ e ∧ FractionText f ∧ ExponentText e := by
  unfold isNumberTail at h
  split at h
  · next rest =>
    rw [Bool.and_eq_true] at h
    exact ⟨_, _, by rw [List.cons_append, List.takeWhile_append_dropWhile],
      .digits (isDigits_iff.mp h.1), exponentText_of_isExponent h.2⟩
  · exact ⟨[], cs, rfl, .none, exponentText_of_isExponent h⟩

theorem numberText_of_isUnsigned {cs sign : List Char} (hs : sign ∈ [[], ['-']])
    (h : isUnsigned cs) : NumberText (sign ++ cs) := by
  rw [isUnsigned, Bool.and_eq_true] at h
  obtain ⟨f, e, hfe, hf, he⟩ := exists_of_isNumberTail h.2
  rw [← List.takeWhile_append_dropWhile (p := Char.isDigit) (l := cs), hfe]
  exact .mk hs (wholeText_of_isWhole h.1) hf he

/-- **The texts that are accepted as numbers.** -/
theorem isNumber_iff {cs : List Char} : isNumber cs ↔ NumberText cs := by
  refine ⟨fun h => ?_, isNumber_of_numberText⟩
  unfold isNumber at h
  split at h
  · next cs => exact @numberText_of_isUnsigned cs ['-'] (by simp) h
  · exact @numberText_of_isUnsigned cs [] (by simp) h

/-! ### Tokens -/

/-- If the characters between two others are digits, then so is each of them. -/
theorem hexDigit_of_between {a b c : Char} {m n : ℕ}
    (h : ∀ k ≤ b.toNat - a.toNat, HexDigit (Char.ofNat (a.toNat + k)) (k + m)) (ha : a ≤ c)
    (hb : c ≤ b) (hn : c.toNat - a.toNat + m = n) : HexDigit c n := by
  have ha' : a.toNat ≤ c.toNat := ha
  have hb' : c.toNat ≤ b.toNat := hb
  obtain ⟨k, hk⟩ := Nat.exists_eq_add_of_le ha'
  -- counted from `a`, it is one of the characters that are digits
  have hdigit := h k (by omega)
  rw [← hk, Char.ofNat_toNat] at hdigit
  obtain rfl : k + m = n := by omega
  exact hdigit

theorem hexDigit_of_hexValue? {c : Char} {n : ℕ} (h : hexValue? c = some n) : HexDigit c n := by
  have hdigits : ∀ k ≤ 9, HexDigit (Char.ofNat ('0'.toNat + k)) (k + 0) := by
    unfold HexDigit
    decide
  have hsmall : ∀ k ≤ 5, HexDigit (Char.ofNat ('a'.toNat + k)) (k + 10) := by
    unfold HexDigit
    decide
  have hcapital : ∀ k ≤ 5, HexDigit (Char.ofNat ('A'.toNat + k)) (k + 10) := by
    unfold HexDigit
    decide
  -- the three ranges are short enough to be checked digit by digit
  rw [hexValue?] at h
  split_ifs at h with hdigit hc hc
  · have hc : '0' ≤ c ∧ c ≤ '9' := by simpa [Char.isDigit, Char.le_def] using hdigit
    exact hexDigit_of_between (a := '0') (b := '9') (m := 0) hdigits hc.1 hc.2 (Option.some.inj h)
  · exact hexDigit_of_between (a := 'a') (b := 'f') hsmall hc.1 hc.2 (Option.some.inj h)
  · exact hexDigit_of_between (a := 'A') (b := 'F') hcapital hc.1 hc.2 (Option.some.inj h)

theorem mem_of_shortEscape? {l c : Char} (h : shortEscape? l = some c) :
    (l, c) ∈ shortEscapes := by
  unfold shortEscape? at h
  split at h <;> first | contradiction | (obtain rfl := Option.some.inj h; decide)

theorem written_of_punctuation? {c : Char} {t : Token} (h : punctuation? c = some t) :
    t.Written [c] := by
  unfold punctuation? at h
  split at h <;> first | contradiction | (obtain rfl := Option.some.inj h; constructor)

theorem written_of_wordToken? {cs : List Char} {t : Token} (h : wordToken? cs = some t) :
    t.Written cs := by
  rw [wordToken?] at h
  split_ifs at h with hnull htrue hfalse hnumber
  · obtain rfl := Option.some.inj h
    exact hnull ▸ .null
  · obtain rfl := Option.some.inj h
    exact htrue ▸ .true
  · obtain rfl := Option.some.inj h
    exact hfalse ▸ .false
  · obtain rfl := Option.some.inj h
    exact .number (isNumber_iff.mp hnumber)

theorem Spelling.Written.concat {s : Spelling} {p : Piece} {cs w : List Char}
    (hs : Spelling.Written s cs) (hp : p.Written w) : Spelling.Written (s ++ [p]) (cs ++ w) := by
  induction hs with
  | nil => simpa using Spelling.Written.cons hp .nil
  | @cons q s cs w' hq _ ih =>
    rw [List.cons_append, List.append_assoc]
    exact .cons hq ih

/-- Some of the digits of a unit, with their value. -/
inductive HexRun : List Char → ℕ → Prop
  /-- None. -/
  | nil : HexRun [] 0
  /-- One more. -/
  | concat {ds : List Char} {code : ℕ} {c : Char} {n : ℕ} (h : HexRun ds code)
    (hc : HexDigit c n) : HexRun (ds ++ [c]) (16 * code + n)

/-- Four digits are a unit. -/
theorem HexRun.written {ds : List Char} {code : ℕ} (h : HexRun ds code) (hlength : ds.length = 4) :
    (Piece.unit code.toUInt16).Written ('\\' :: 'u' :: ds) := by
  -- the digits are taken off from the last one on
  obtain _ | @⟨_, _, d, l, h, hd⟩ := h
  · simp at hlength
  obtain _ | @⟨_, _, c, k, h, hc⟩ := h
  · simp at hlength
  obtain _ | @⟨_, _, b, j, h, hb⟩ := h
  · simp at hlength
  obtain _ | @⟨_, _, a, i, h, ha⟩ := h
  · simp at hlength
  obtain _ | @⟨_, _, _, _, h, _⟩ := h
  · have hi := ha.lt
    have hj := hb.lt
    have hk := hc.lt
    have hl := hd.lt
    have hsize : 16 * (16 * (16 * i + j) + k) + l < UInt16.size := by
      rw [UInt16.size]
      omega
    rw [Nat.mul_zero, Nat.zero_add]
    exact .unit ha hb hc hd (UInt16.toNat_ofNat_of_lt' hsize)
  · simp at hlength

namespace Mode

/-- **What has been scanned since the last token**, when the scan stands somewhere. -/
inductive Reads : Mode → List Char → Prop
  /-- Blanks. -/
  | between {b : List Char} (hb : Blanks b) : Reads between b
  /-- Blanks and a part of a word. -/
  | word {b read : List Char} (hb : Blanks b) : Reads (word read) (b ++ read.reverse)
  /-- Blanks, a quote and some pieces. -/
  | string {b cs : List Char} {read : List Piece} (hb : Blanks b)
    (h : Spelling.Written read.reverse cs) : Reads (string read) (b ++ '"' :: cs)
  /-- A backslash after that. -/
  | escape {b cs : List Char} {read : List Piece} (hb : Blanks b)
    (h : Spelling.Written read.reverse cs) : Reads (escape read) (b ++ '"' :: (cs ++ ['\\']))
  /-- Some digits of a unit after that. -/
  | unit {b cs ds : List Char} {read : List Piece} {code missing : ℕ} (hb : Blanks b)
    (h : Spelling.Written read.reverse cs) (hds : HexRun ds code)
    (hlength : ds.length + missing = 3) :
    Reads (unit read code missing) (b ++ '"' :: (cs ++ '\\' :: 'u' :: ds))

/-- Where the scan stands after a character: what has been scanned before it and the character
are the tokens that end, and what has been scanned since. -/
def Continues (u : List Char) (c : Char) (next : List Token × Mode) : Prop :=
  ∃ u', next.2.Reads u' ∧
    ∀ ts w, Layout ts (u' ++ w) → Layout (next.1 ++ ts) (u ++ c :: w)

/-- No token ends. -/
theorem continues_silent {u : List Char} {c : Char} {mode : Mode} (h : mode.Reads (u ++ [c])) :
    Continues u c ([], mode) :=
  ⟨u ++ [c], h, fun ts w hw => by simpa using hw⟩

theorem continues_stepBetween {b : List Char} (hb : Blanks b) {c : Char}
    {next : List Token × Mode} (h : stepBetween c = some next) : Continues b c next := by
  rw [stepBetween] at h
  split_ifs at h with hblank hquote hword
  · obtain rfl := Option.some.inj h
    refine continues_silent (.between ?_)
    have hc : c ∈ [' ', '\t', '\n', '\r'] := by simpa [isBlank, or_assoc] using hblank
    intro x hx
    rcases List.mem_append.mp hx with hx | hx
    · exact hb x hx
    · exact List.mem_singleton.mp hx ▸ hc
  · obtain rfl := Option.some.inj h
    subst hquote
    -- the quote is the first character of a token that goes on
    exact continues_silent (.string hb .nil)
  · obtain rfl := Option.some.inj h
    exact continues_silent (.word hb)
  · obtain ⟨t, ht, rfl⟩ := Option.map_eq_some_iff.mp h
    refine ⟨[], .between (by simp [Blanks]), fun ts w hw => ?_⟩
    exact .cons hb (written_of_punctuation? ht) hw

/-- A piece of a string ends. -/
theorem continues_piece {b cs w : List Char} {c : Char} {read : List Piece} {p : Piece}
    (hb : Blanks b) (hread : Spelling.Written read.reverse cs) (hp : p.Written (w ++ [c])) :
    Continues (b ++ '"' :: (cs ++ w)) c ([], string (p :: read)) := by
  refine continues_silent ?_
  have hread' := hread.concat hp
  rw [← List.reverse_cons] at hread'
  simpa using Reads.string hb hread'

/-- **One character further.** -/
theorem Reads.step {mode : Mode} {u : List Char} (hmode : mode.Reads u) {c : Char}
    {next : List Token × Mode} (h : mode.step c = some next) : Continues u c next := by
  cases hmode with
  | between hb => exact continues_stepBetween hb h
  | @word b read hb =>
    rw [Mode.step] at h
    split_ifs at h with hc
    · obtain rfl := Option.some.inj h
      refine continues_silent ?_
      have hword : (Mode.word (c :: read)).Reads (b ++ (c :: read).reverse) := .word hb
      simpa using hword
    · simp only [Option.bind_eq_bind, Option.bind_eq_some_iff, Option.pure_def,
        Option.some.injEq] at h
      -- a word ends before this character, which then stands between tokens
      obtain ⟨t, ht, between', hbetween, rfl⟩ := h
      obtain ⟨u', hu', hlayout⟩ := continues_stepBetween (b := []) (by simp [Blanks]) hbetween
      refine ⟨u', hu', fun ts w hw => ?_⟩
      rw [List.append_assoc]
      exact .cons hb (written_of_wordToken? ht) (hlayout ts w hw)
  | @string b cs read hb hread =>
    rw [Mode.step] at h
    -- a quote ends the string here, as it is not escaped
    split_ifs at h with hquote hslash hcontrol
    · obtain rfl := Option.some.inj h
      subst hquote
      refine ⟨[], .between (by simp [Blanks]), fun ts w hw => ?_⟩
      have hlayout := Layout.cons hb (.string hread) hw
      simpa using hlayout
    · obtain rfl := Option.some.inj h
      subst hslash
      refine continues_silent ?_
      simpa using Reads.escape hb hread
    · obtain rfl := Option.some.inj h
      have hpiece : (Piece.plain c).Written ([] ++ [c]) :=
        .plain (Nat.not_lt.mp hcontrol) hquote hslash
      simpa using continues_piece hb hread hpiece
  | @escape b cs read hb hread =>
    rw [Mode.step] at h
    split_ifs at h with hu
    · obtain rfl := Option.some.inj h
      subst hu
      refine continues_silent ?_
      simpa using Reads.unit hb hread .nil rfl
    · obtain ⟨e, he, rfl⟩ := Option.map_eq_some_iff.mp h
      exact continues_piece (w := ['\\']) hb hread (.short (mem_of_shortEscape? he))
  | @unit b cs ds read code missing hb hread hds hlength =>
    simp only [Mode.step, Option.bind_eq_bind, Option.bind_eq_some_iff] at h
    obtain ⟨n, hn, h⟩ := h
    have hds' := hds.concat (hexDigit_of_hexValue? hn)
    -- the fourth digit completes a unit
    cases missing with
    | zero =>
      obtain rfl := Option.some.inj h
      have hfour : (ds ++ [c]).length = 4 := by simpa using hlength
      exact continues_piece (w := '\\' :: 'u' :: ds) hb hread (hds'.written hfour)
    | succ missing =>
      obtain rfl := Option.some.inj h
      refine continues_silent ?_
      have hthree : (ds ++ [c]).length + missing = 3 := by
        rw [List.length_append, List.length_singleton]
        omega
      simpa using Reads.unit hb hread hds' hthree

/-- What is left where the document may end. -/
theorem Reads.finish {mode : Mode} {u : List Char} (hmode : mode.Reads u) {ts : List Token}
    (h : mode.finish = some ts) : Layout ts u := by
  cases hmode with
  | between hb =>
    obtain rfl := Option.some.inj h
    exact .nil hb
  | @word b read hb =>
    obtain ⟨t, ht, rfl⟩ := Option.map_eq_some_iff.mp h
    have hend : Layout [] [] := .nil (by simp [Blanks])
    simpa using Layout.cons hb (written_of_wordToken? ht) hend
  | _ => contradiction

/-- **Tokens are read only from what is written for them.** -/
theorem Reads.scan {mode : Mode} {u : List Char} (hmode : mode.Reads u) {w : List Char}
    {ts : List Token} (h : mode.scan w = some ts) : Layout ts (u ++ w) := by
  induction w generalizing mode u ts with
  | nil =>
    rw [List.append_nil]
    exact hmode.finish h
  | cons c w ih =>
    simp only [Mode.scan, Option.bind_eq_bind, Option.bind_eq_some_iff, Option.pure_def,
      Option.some.injEq] at h
    obtain ⟨next, hstep, more, hmore, rfl⟩ := h
    obtain ⟨u', hu', hlayout⟩ := hmode.step hstep
    -- what this character leaves over is read together with the rest
    exact hlayout more w (ih hu' hmore)

end Mode

/-! ### Values -/

/-- The tokens of the items of an array. -/
def itemTokens : List Value → List Token
  | [] => []
  | v :: items => v.tokens ++ laterItems items

/-- The tokens of the members of an object. -/
def memberTokens : List (Spelling × Value) → List Token
  | [] => []
  | (key, v) :: members => .string key :: .colon :: (v.tokens ++ laterMembers members)

/-- The comma after what has been read. -/
def commaAfter {α : Type} : List α → List Token
  | [] => []
  | _ :: _ => [.comma]

theorem tokens_array (items : List Value) :
    (Value.array items).tokens = .openArray :: (itemTokens items ++ [.closeArray]) := by
  cases items with
  | nil => rw [Value.tokens, itemTokens]; rfl
  | cons v items => rw [Value.tokens, itemTokens, List.append_assoc]

theorem tokens_object (members : List (Spelling × Value)) :
    (Value.object members).tokens = .openObject :: (memberTokens members ++ [.closeObject]) := by
  cases members with
  | nil => rw [Value.tokens, memberTokens]; rfl
  | cons m members => rw [Value.tokens, memberTokens]; simp

theorem laterItems_concat (items : List Value) (v : Value) :
    laterItems (items ++ [v]) = laterItems items ++ .comma :: v.tokens := by
  induction items with
  | nil => simp [laterItems]
  | cons v' items ih => simp [laterItems, ih]

theorem laterMembers_concat (members : List (Spelling × Value)) (m : Spelling × Value) :
    laterMembers (members ++ [m]) =
      laterMembers members ++ .comma :: .string m.1 :: .colon :: m.2.tokens := by
  induction members with
  | nil => simp [laterMembers]
  | cons m' members ih => simp [laterMembers, ih]

theorem itemTokens_reverse_cons (v : Value) (read : List Value) :
    itemTokens (v :: read).reverse =
      itemTokens read.reverse ++ (commaAfter read ++ v.tokens) := by
  rw [List.reverse_cons]
  -- items are read into a reversed list, so a comma is due unless `v` is the first
  cases read with
  | nil => simp [itemTokens, laterItems, commaAfter]
  | cons v' read =>
    obtain ⟨first, items, hitems⟩ := List.exists_cons_of_ne_nil
      (List.reverse_ne_nil_iff.mpr (List.cons_ne_nil v' read))
    rw [hitems]
    simp [itemTokens, laterItems_concat, commaAfter]

theorem memberTokens_reverse_cons (m : Spelling × Value) (read : List (Spelling × Value)) :
    memberTokens (m :: read).reverse =
      memberTokens read.reverse ++
        (commaAfter read ++ .string m.1 :: .colon :: m.2.tokens) := by
  rw [List.reverse_cons]
  cases read with
  | nil => simp [memberTokens, laterMembers, commaAfter]
  | cons m' read =>
    obtain ⟨first, members, hmembers⟩ := List.exists_cons_of_ne_nil
      (List.reverse_ne_nil_iff.mpr (List.cons_ne_nil m' read))
    rw [hmembers]
    simp [memberTokens, laterMembers_concat, commaAfter]

/-- The tokens of an open array or object up to its next value; of an object that waits for no
value, up to its next key. -/
def Frame.tokens : Frame → List Token
  | .array read => .openArray :: (itemTokens read.reverse ++ commaAfter read)
  | .object read => .openObject :: (memberTokens read.reverse ++ commaAfter read)
  | .member read key =>
    .openObject :: (memberTokens read.reverse ++ (commaAfter read ++ [.string key, .colon]))

/-- The tokens up to the next value in the frames of a stack. -/
def stackTokens : List Frame → List Token
  | [] => []
  | frame :: stack => stackTokens stack ++ frame.tokens

namespace Reading

/-- **The tokens that have been read**, when the reader stands somewhere. -/
inductive Reads : Reading → List Token → Prop
  /-- A value may come. -/
  | value (stack : List Frame) : Reads (within stack .value) (stackTokens stack)
  /-- An array has been opened. -/
  | itemOrEnd (stack : List Frame) :
    Reads (within (.array [] :: stack) .itemOrEnd) (stackTokens (.array [] :: stack))
  /-- An object has been opened. -/
  | keyOrEnd (stack : List Frame) :
    Reads (within (.object [] :: stack) .keyOrEnd) (stackTokens (.object [] :: stack))
  /-- A key may come. -/
  | key (read : List (Spelling × Value)) (stack : List Frame) :
    Reads (within (.object read :: stack) .key) (stackTokens (.object read :: stack))
  /-- A key has come. -/
  | colon (read : List (Spelling × Value)) (key : Spelling) (stack : List Frame) :
    Reads (within (.member read key :: stack) .colon)
      (stackTokens (.object read :: stack) ++ [.string key])
  /-- An item has come. -/
  | item (v : Value) (read : List Value) (stack : List Frame) :
    Reads (within (.array (v :: read) :: stack) .commaOrEnd)
      (stackTokens stack ++ .openArray :: itemTokens (v :: read).reverse)
  /-- A member has come. -/
  | member (m : Spelling × Value) (read : List (Spelling × Value)) (stack : List Frame) :
    Reads (within (.object (m :: read) :: stack) .commaOrEnd)
      (stackTokens stack ++ .openObject :: memberTokens (m :: read).reverse)
  /-- The whole value has come. -/
  | complete (v : Value) : Reads (complete v) v.tokens

/-- A value has been read in the frames of a stack. -/
theorem reads_close {v : Value} {stack : List Frame} {r : Reading} (h : close v stack = some r) :
    r.Reads (stackTokens stack ++ v.tokens) := by
  match stack with
  | [] =>
    obtain rfl := Option.some.inj h
    exact .complete v
  -- the value becomes part of the array or the object that waits for it
  | .array read :: stack =>
    obtain rfl := Option.some.inj h
    have hitem := Reads.item v read stack
    rw [itemTokens_reverse_cons] at hitem
    simpa [stackTokens, Frame.tokens] using hitem
  | .member read key :: stack =>
    obtain rfl := Option.some.inj h
    have hmember := Reads.member (key, v) read stack
    rw [memberTokens_reverse_cons] at hmember
    simpa [stackTokens, Frame.tokens] using hmember

theorem reads_stepValue {stack : List Frame} {t : Token} {r : Reading}
    (h : stepValue stack t = some r) : r.Reads (stackTokens stack ++ [t]) := by
  cases t with
  | null => exact reads_close h
  | bool b => exact reads_close h
  | number digits => exact reads_close h
  | string s => exact reads_close h
  | openArray =>
    obtain rfl := Option.some.inj h
    exact .itemOrEnd stack
  | openObject =>
    obtain rfl := Option.some.inj h
    exact .keyOrEnd stack
  | _ => contradiction

theorem reads_stepKey {read : List (Spelling × Value)} {stack : List Frame} {t : Token}
    {r : Reading} (h : stepKey (.object read :: stack) t = some r) :
    r.Reads (stackTokens (.object read :: stack) ++ [t]) := by
  cases t with
  | string key =>
    obtain rfl := Option.some.inj h
    exact .colon read key stack
  | _ => contradiction

theorem reads_stepEnd_array {read : List Value} {stack : List Frame} {t : Token} {r : Reading}
    (h : stepEnd (.array read :: stack) t = some r) :
    r.Reads (stackTokens stack ++ .openArray :: (itemTokens read.reverse ++ [t])) := by
  cases t with
  | closeArray =>
    rw [← tokens_array]
    exact reads_close h
  | _ => contradiction

theorem reads_stepEnd_object {read : List (Spelling × Value)} {stack : List Frame} {t : Token}
    {r : Reading} (h : stepEnd (.object read :: stack) t = some r) :
    r.Reads (stackTokens stack ++ .openObject :: (memberTokens read.reverse ++ [t])) := by
  cases t with
  | closeObject =>
    rw [← tokens_object]
    exact reads_close h
  | _ => contradiction

/-- **One token further.** -/
theorem Reads.step {r r' : Reading} {ts : List Token} (hr : r.Reads ts) {t : Token}
    (h : r.step t = some r') : r'.Reads (ts ++ [t]) := by
  cases hr with
  | value stack => exact reads_stepValue h
  | itemOrEnd stack =>
    -- an empty array ends right away, and otherwise its first item begins
    by_cases ht : t = .closeArray
    · have hend := reads_stepEnd_array ((if_pos ht).symm.trans h)
      simpa [stackTokens, Frame.tokens, itemTokens, commaAfter] using hend
    · exact reads_stepValue ((if_neg ht).symm.trans h)
  | keyOrEnd stack =>
    by_cases ht : t = .closeObject
    · have hend := reads_stepEnd_object ((if_pos ht).symm.trans h)
      simpa [stackTokens, Frame.tokens, memberTokens, commaAfter] using hend
    · exact reads_stepKey ((if_neg ht).symm.trans h)
  | key read stack => exact reads_stepKey h
  | colon read key stack =>
    by_cases ht : t = .colon
    · obtain rfl := Option.some.inj ((if_pos ht).symm.trans h)
      subst ht
      have hvalue := Reads.value (.member read key :: stack)
      simpa [stackTokens, Frame.tokens] using hvalue
    · exact absurd ((if_neg ht).symm.trans h) (by simp)
  | item v read stack =>
    -- a comma asks for one more item, and a bracket ends the array
    by_cases ht : t = .comma
    · obtain rfl := Option.some.inj ((if_pos ht).symm.trans h)
      subst ht
      have hvalue := Reads.value (.array (v :: read) :: stack)
      simpa [stackTokens, Frame.tokens, commaAfter] using hvalue
    · have hend := reads_stepEnd_array ((if_neg ht).symm.trans h)
      simpa using hend
  | member m read stack =>
    by_cases ht : t = .comma
    · obtain rfl := Option.some.inj ((if_pos ht).symm.trans h)
      subst ht
      have hvalue := Reads.key (m :: read) stack
      simpa [stackTokens, Frame.tokens, commaAfter] using hvalue
    · have hend := reads_stepEnd_object ((if_neg ht).symm.trans h)
      simpa using hend
  | complete v => contradiction

/-- **A value is read only from its tokens.** -/
theorem Reads.foldlM {r r' : Reading} {ts us : List Token} (hr : r.Reads ts)
    (h : us.foldlM Reading.step r = some r') : r'.Reads (ts ++ us) := by
  induction us generalizing r ts with
  | nil =>
    obtain rfl := Option.some.inj h
    rwa [List.append_nil]
  | cons t us ih =>
    rw [List.foldlM_cons, Option.bind_eq_bind, Option.bind_eq_some_iff] at h
    obtain ⟨next, hstep, hrest⟩ := h
    rw [List.append_cons]
    exact ih (hr.step hstep) hrest

theorem Reads.eq_tokens {v : Value} {ts : List Token} (h : (Reading.complete v).Reads ts) :
    ts = v.tokens := by
  cases h
  rfl

end Reading

theorem eq_tokens_of_ofTokens? {ts : List Token} {v : Value}
    (h : Value.ofTokens? ts = some v) : ts = v.tokens := by
  obtain ⟨r, hr, hv⟩ := Option.bind_eq_some_iff.mp h
  have hreads := (Reading.Reads.value []).foldlM hr
  -- only a reader that is through gives a value
  cases r with
  | complete v' =>
    obtain rfl : v' = v := Option.some.inj hv
    exact hreads.eq_tokens
  | within stack next => contradiction

/-- **A document is read as the value that it was written for, and no document is read that was
written for none.** -/
theorem read?_eq_some_iff {document : String} {v : Value} :
    read? document = some v ↔ v.Written document.toList := by
  refine ⟨fun h => ?_, read?_of_written⟩
  obtain ⟨ts, hts, hv⟩ := Option.bind_eq_some_iff.mp h
  have hlayout : Layout ts ([] ++ document.toList) :=
    (Mode.Reads.between (b := []) (by simp [Blanks])).scan hts
  rw [eq_tokens_of_ofTokens? hv] at hlayout
  exact hlayout

end Json
end PartitionRouting
