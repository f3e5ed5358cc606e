import Mathlib.Data.List.Chain
import PartitionRouting.Json.Token

/-!
# How tokens are written

The grammar of JSON leaves much open: blanks may stand between tokens, numbers have a sign, a
fraction and an exponent or not, and a character of a string may be written as itself or by
an escape.  Here is what may be written for a list of tokens.  The scan reads all of it back.

## Main definitions

* `Json.NumberText` — the texts of numbers.
* `Json.Piece.Written`, `Spelling.Written`, `Token.Written` — what may be written for a piece
  of a string, for a string and for a token.
* `Json.Layout` — what may be written for a list of tokens.
* `Json.Spaced` — no two words stand next to each other.

## Main results

* `Json.isNumber_of_numberText` — the texts of numbers are accepted.
* `Json.tokens?_of_layout` — **tokens are read back from whatever is written for them.**
-/

namespace PartitionRouting
namespace Json

/-! ### Numbers -/

/-- A run of digits, at least one. -/
def DigitRun (cs : List Char) : Prop := cs ≠ [] ∧ ∀ c ∈ cs, c.isDigit

/-- The whole part of a number has no leading zero. -/
inductive WholeText : List Char → Prop
  /-- Zero. -/
  | zero : WholeText ['0']
  /-- Any other number. -/
  | run {c : Char} {cs : List Char} (hc : c ≠ '0') (h : DigitRun (c :: cs)) : WholeText (c :: cs)

/-- A number may have a fraction. -/
inductive FractionText : List Char → Prop
  /-- It has none. -/
  | none : FractionText []
  /-- A point and digits. -/
  | digits {cs : List Char} (h : DigitRun cs) : FractionText ('.' :: cs)

/-- A number may have an exponent. -/
inductive ExponentText : List Char → Prop
  /-- It has none. -/
  | none : ExponentText []
  /-- A letter, perhaps a sign, and digits. -/
  | digits {e : Char} {sign cs : List Char} (he : e ∈ ['e', 'E'])
    (hs : sign ∈ [[], ['+'], ['-']]) (h : DigitRun cs) : ExponentText (e :: (sign ++ cs))

/-- **The texts of numbers.** -/
inductive NumberText : List Char → Prop
  /-- Perhaps a sign, the whole part, perhaps a fraction and an exponent. -/
  | mk {sign whole fraction exponent : List Char} (hs : sign ∈ [[], ['-']])
    (hw : WholeText whole) (hf : FractionText fraction) (he : ExponentText exponent) :
    NumberText (sign ++ (whole ++ (fraction ++ exponent)))

theorem isDigits_iff {cs : List Char} : isDigits cs ↔ DigitRun cs := by
  simp [isDigits, DigitRun]

/-- A list starts with all that satisfies a condition if what follows does not. -/
theorem takeWhile_append_of_head {α : Type*} {p : α → Bool} {l r : List α}
    (hl : ∀ x ∈ l, p x) (hr : ∀ x ∈ r.head?, ¬p x) : (l ++ r).takeWhile p = l := by
  rw [List.takeWhile_append_of_pos hl]
  cases r with
  | nil => simp
  | cons x r => simp [hr x rfl]

theorem dropWhile_append_of_head {α : Type*} {p : α → Bool} {l r : List α}
    (hl : ∀ x ∈ l, p x) (hr : ∀ x ∈ r.head?, ¬p x) : (l ++ r).dropWhile p = r := by
  rw [List.dropWhile_append_of_pos hl]
  cases r with
  | nil => rfl
  | cons x r => simp [hr x rfl]

theorem WholeText.digitRun {cs : List Char} (h : WholeText cs) : DigitRun cs := by
  cases h with
  | zero => exact ⟨List.cons_ne_nil _ _, by simp⟩
  | run _ h => exact h

theorem isWhole_of_wholeText {cs : List Char} (h : WholeText cs) : isWhole cs := by
  rw [isWhole, isDigits_iff.mpr h.digitRun]
  cases h with
  | zero => rfl
  | run hc _ => simp [hc]

theorem not_isDigit_head_of_exponentText {cs : List Char} (h : ExponentText cs) :
    ∀ c ∈ cs.head?, ¬c.isDigit := by
  cases h with
  | none => simp
  | digits he hs h =>
    simp only [List.mem_cons, List.not_mem_nil, or_false] at he
    rcases he with rfl | rfl <;> simp

theorem not_isDigit_head_of_fractionText {f e : List Char} (hf : FractionText f)
    (he : ExponentText e) : ∀ c ∈ (f ++ e).head?, ¬c.isDigit := by
  cases hf with
  | none => exact not_isDigit_head_of_exponentText he
  | digits h => simp

theorem isExponent_of_exponentText {cs : List Char} (h : ExponentText cs) : isExponent cs := by
  cases h with
  | none => rfl
  | @digits e sign ds he hs h =>
    have hletter : (e == 'e' || e == 'E') = true := by simpa using he
    have hrun : isDigits ds = true := isDigits_iff.mpr h
    simp only [List.mem_cons, List.not_mem_nil, or_false] at hs
    rcases hs with rfl | rfl | rfl
    · -- a digit is no sign
      obtain ⟨d, rest, rfl⟩ := List.exists_cons_of_ne_nil h.1
      have hd : d.isDigit := h.2 d List.mem_cons_self
      have hplus : d ≠ '+' := by rintro rfl; exact absurd hd (by decide)
      have hminus : d ≠ '-' := by rintro rfl; exact absurd hd (by decide)
      simp [isExponent, hletter, hplus, hminus, hrun]
    · simp [isExponent, hletter, hrun]
    · simp [isExponent, hletter, hrun]

theorem isNumberTail_of_fractionText {f e : List Char} (hf : FractionText f)
    (he : ExponentText e) : isNumberTail (f ++ e) := by
  cases hf with
  | none =>
    have hexponent := isExponent_of_exponentText he
    cases he with
    | none => rfl
    | @digits c sign ds hc hs h =>
      -- an exponent does not begin like a fraction
      have hpoint : c ≠ '.' := by
        rintro rfl
        exact absurd hc (by decide)
      simpa [isNumberTail, hpoint] using hexponent
  | @digits ds h =>
    have hhead := not_isDigit_head_of_exponentText he
    rw [List.cons_append, isNumberTail, takeWhile_append_of_head h.2 hhead,
      dropWhile_append_of_head h.2 hhead, isDigits_iff.mpr h, isExponent_of_exponentText he]
    rfl

/-- **The texts of numbers are accepted.** -/
theorem isNumber_of_numberText {cs : List Char} (h : NumberText cs) : isNumber cs := by
  cases h with
  | @mk sign whole f e hs hw hf he =>
    -- the whole part ends where a fraction or an exponent begins
    have hhead := not_isDigit_head_of_fractionText hf he
    have hunsigned : isUnsigned (whole ++ (f ++ e)) := by
      rw [isUnsigned, takeWhile_append_of_head hw.digitRun.2 hhead,
        dropWhile_append_of_head hw.digitRun.2 hhead, isWhole_of_wholeText hw,
        isNumberTail_of_fractionText hf he]
      rfl
    simp only [List.mem_cons, List.not_mem_nil, or_false] at hs
    rcases hs with rfl | rfl
    · obtain ⟨d, rest, rfl⟩ := List.exists_cons_of_ne_nil hw.digitRun.1
      have hd : d.isDigit := hw.digitRun.2 d List.mem_cons_self
      have hminus : d ≠ '-' := by rintro rfl; exact absurd hd (by decide)
      simpa [isNumber, hminus] using hunsigned
    · exact hunsigned

/-! ### Strings -/

/-- The digits to the base sixteen, with small letters and with capital letters. -/
def hexLetters : List (List Char) :=
  [['0', '1', '2', '3', '4', '5', '6', '7', '8', '9', 'a', 'b', 'c', 'd', 'e', 'f'],
    ['0', '1', '2', '3', '4', '5', '6', '7', '8', '9', 'A', 'B', 'C', 'D', 'E', 'F']]

/-- A digit to the base sixteen. -/
def HexDigit (c : Char) (n : ℕ) : Prop := ∃ letters ∈ hexLetters, letters[n]? = some c

theorem HexDigit.lt {c : Char} {n : ℕ} (h : HexDigit c n) : n < 16 := by
  obtain ⟨letters, hletters, hn⟩ := h
  have hlength : ∀ letters ∈ hexLetters, letters.length = 16 := by decide
  exact hlength letters hletters ▸ (List.getElem?_eq_some_iff.mp hn).1

/-- The letters that may follow a backslash, with what they stand for. -/
def shortEscapes : List (Char × Char) :=
  [('"', '"'), ('\\', '\\'), ('/', '/'), ('b', '\x08'), ('f', '\x0c'), ('n', '\n'), ('r', '\r'),
    ('t', '\t')]

/-- **What is written for a piece of a string.** -/
inductive Piece.Written : Piece → List Char → Prop
  /-- A character that is neither a control nor a quote nor a backslash. -/
  | plain {c : Char} (hc : 0x20 ≤ c.toNat) (hquote : c ≠ '"') (hslash : c ≠ '\\') :
    Written (.plain c) [c]
  /-- A letter after a backslash. -/
  | short {l c : Char} (h : (l, c) ∈ shortEscapes) : Written (.short c) ['\\', l]
  /-- Four digits after a backslash and a letter, the first counting most. -/
  | unit {code : UInt16} {a b c d : Char} {i j k l : ℕ} (ha : HexDigit a i) (hb : HexDigit b j)
    (hc : HexDigit c k) (hd : HexDigit d l)
    (h : code.toNat = 16 * (16 * (16 * i + j) + k) + l) :
    Written (.unit code) ['\\', 'u', a, b, c, d]

/-- **What is written for a string**, between its quotes. -/
inductive Spelling.Written : Spelling → List Char → Prop
  /-- Nothing. -/
  | nil : Written [] []
  /-- A piece and the rest. -/
  | cons {p : Piece} {s : Spelling} {cs w : List Char} (hp : p.Written cs) (hs : Written s w) :
    Written (p :: s) (cs ++ w)

/-- **What is written for a token.** -/
inductive Token.Written : Token → List Char → Prop
  | openObject : Written .openObject ['\x7b']
  | closeObject : Written .closeObject ['\x7d']
  | openArray : Written .openArray ['[']
  | closeArray : Written .closeArray [']']
  | colon : Written .colon [':']
  | comma : Written .comma [',']
  | null : Written .null ['n', 'u', 'l', 'l']
  | true : Written (.bool true) ['t', 'r', 'u', 'e']
  | false : Written (.bool false) ['f', 'a', 'l', 's', 'e']
  /-- A number is written as it is. -/
  | number {cs : List Char} (h : NumberText cs) : Written (.number cs) cs
  /-- A string is written between quotes. -/
  | string {s : Spelling} {w : List Char} (h : s.Written w) :
    Written (.string s) ('"' :: (w ++ ['"']))

/-- A run of blanks. -/
def Blanks (cs : List Char) : Prop := ∀ c ∈ cs, c ∈ [' ', '\t', '\n', '\r']

/-- **What is written for a list of tokens**: each of them in turn, with any blanks around
it. -/
inductive Layout : List Token → List Char → Prop
  /-- Blanks at the end. -/
  | nil {b : List Char} (hb : Blanks b) : Layout [] b
  /-- Blanks, a token, and the rest. -/
  | cons {t : Token} {ts : List Token} {b cs w : List Char} (hb : Blanks b) (ht : t.Written cs)
    (hw : Layout ts w) : Layout (t :: ts) (b ++ (cs ++ w))

/-! ### The scan of a token -/

namespace Mode

/-- The scan after one character. -/
theorem scan_cons {mode mode' : Mode} {c : Char} {tokens : List Token}
    (h : mode.step c = some (tokens, mode')) (cs : List Char) :
    mode.scan (c :: cs) = (mode'.scan cs).map (tokens ++ ·) := by
  rw [scan, h, Option.bind_eq_bind, Option.bind_some]
  dsimp only
  cases mode'.scan cs <;> rfl

theorem scan_cons_silent {mode mode' : Mode} {c : Char} (h : mode.step c = some ([], mode'))
    (cs : List Char) : mode.scan (c :: cs) = mode'.scan cs := by
  rw [scan_cons h]
  exact Option.map_id'

/-- A character that is a token. -/
theorem scan_punctuation {c : Char} {t : Token} (h : between.step c = some ([t], between))
    (cs : List Char) : between.scan (c :: cs) = (between.scan cs).map (t :: ·) := scan_cons h cs

/-- Blanks between tokens are skipped. -/
theorem scan_blanks {b : List Char} (hb : Blanks b) (cs : List Char) :
    between.scan (b ++ cs) = between.scan cs := by
  induction b with
  | nil => rfl
  | cons c b ih =>
    have hc : isBlank c := by
      have := hb c List.mem_cons_self
      simpa [isBlank, or_assoc] using this
    have hstep : between.step c = some ([], between) := if_pos hc
    rw [List.cons_append, scan_cons_silent hstep]
    exact ih fun x hx => hb x (List.mem_cons_of_mem c hx)

theorem hexValue?_of_hexDigit {c : Char} {n : ℕ} (h : HexDigit c n) : hexValue? c = some n := by
  have hall : ∀ letters ∈ hexLetters, ∀ n < 16, (letters[n]?).bind hexValue? = some n := by decide
  have hlt := h.lt
  obtain ⟨letters, hletters, hn⟩ := h
  have hvalue := hall letters hletters n hlt
  rwa [hn, Option.bind_some] at hvalue

theorem shortEscape?_of_mem {l c : Char} (h : (l, c) ∈ shortEscapes) :
    shortEscape? l = some c := by
  have hall : ∀ e ∈ shortEscapes, shortEscape? e.1 = some e.2 := by decide
  exact hall _ h

theorem ne_u_of_mem {l c : Char} (h : (l, c) ∈ shortEscapes) : l ≠ 'u' := by
  have hall : ∀ e ∈ shortEscapes, e.1 ≠ 'u' := by decide
  exact hall _ h

/-- The scan of a piece of a string. -/
theorem scan_piece {p : Piece} {cs : List Char} (h : p.Written cs) (read : List Piece)
    (w : List Char) : (string read).scan (cs ++ w) = (string (p :: read)).scan w := by
  cases h with
  | @plain c hc hquote hslash =>
    have hstep : (string read).step c = some ([], string (.plain c :: read)) := by
      simp [step, hquote, hslash, Nat.not_lt.mpr hc]
    exact scan_cons_silent hstep w
  | @short l c h =>
    have hslash : (string read).step '\\' = some ([], escape read) := rfl
    have hletter : (escape read).step l = some ([], string (.short c :: read)) := by
      simp [step, ne_u_of_mem h, shortEscape?_of_mem h]
    rw [List.cons_append, scan_cons_silent hslash]
    exact scan_cons_silent hletter w
  | @unit code a b c d i j k l ha hb hc hd h =>
    -- the last of the four digits closes the unit, so the scan treats it differently
    have hdigit : ∀ {x : Char} {n : ℕ} (value missing : ℕ), HexDigit x n →
        (unit read value (missing + 1)).step x = some ([], unit read (16 * value + n) missing) := by
      intro x n value missing hx
      simp [step, hexValue?_of_hexDigit hx]
    have hslash : (string read).step '\\' = some ([], escape read) := rfl
    have hletter : (escape read).step 'u' = some ([], unit read 0 3) := rfl
    have hlast : (unit read (16 * (16 * i + j) + k) 0).step d =
        some ([], string (.unit code :: read)) := by
      simp only [step, hexValue?_of_hexDigit hd, Option.bind_eq_bind, Option.bind_some, ← h]
      exact congrArg (fun code => some ([], string (.unit code :: read))) UInt16.ofNat_toNat
    simp only [List.cons_append, List.nil_append]
    rw [scan_cons_silent hslash, scan_cons_silent hletter, scan_cons_silent (hdigit 0 2 ha),
      scan_cons_silent (hdigit _ 1 hb), scan_cons_silent (hdigit _ 0 hc), Nat.mul_zero,
      Nat.zero_add]
    exact scan_cons_silent hlast w

/-- The scan of the inside of a string. -/
theorem scan_spelling {s : Spelling} {cs : List Char} (h : s.Written cs) (read : List Piece)
    (w : List Char) :
    (string read).scan (cs ++ w) = (string (s.reverse ++ read)).scan w := by
  induction h generalizing read with
  | nil => rfl
  | @cons p s cs rest hp _ ih =>
    rw [List.append_assoc, scan_piece hp, ih]
    simp

/-- A character of words starts a word. -/
theorem stepBetween_of_isWordChar {c : Char} (h : isWordChar c) :
    between.step c = some ([], word [c]) := by
  have hblank : isBlank c = false := by
    rw [← Bool.not_eq_true]
    intro hb
    have hall : ∀ c ∈ [' ', '\t', '\n', '\r'], isWordChar c = false := by simp [isWordChar]
    have hc := hall c (by simpa [isBlank, or_assoc] using hb)
    exact Bool.noConfusion (h.symm.trans hc)
  have hquote : c ≠ '"' := by
    rintro rfl
    exact absurd h (by decide)
  show stepBetween c = _
  simp [stepBetween, hblank, hquote, h]

/-- The scan of a word, which ends before the first character that is no part of words. -/
theorem scan_word {read : List Char} {t : Token} (h : wordToken? read.reverse = some t)
    {w : List Char} (hw : ∀ c ∈ w.head?, ¬isWordChar c) :
    (word read).scan w = (between.scan w).map (t :: ·) := by
  cases w with
  | nil =>
    show (word read).finish = some [t]
    rw [finish.eq_2, h]
    rfl
  | cons c w =>
    have hc : ¬isWordChar c := hw c rfl
    -- the character after a word is read as if it stood between tokens
    cases hnext : stepBetween c with
    | none =>
      have hword : (word read).step c = none := by simp [step, hc, h, hnext]
      have hbetween : between.step c = none := hnext
      rw [scan, scan, hword, hbetween]
      rfl
    | some next =>
      have hword : (word read).step c = some (t :: next.1, next.2) := by
        simp [step, hc, h, hnext]
      have hbetween : between.step c = some (next.1, next.2) := hnext
      rw [scan_cons hword, scan_cons hbetween, Option.map_map]
      rfl

/-- The characters of a word are read one after another. -/
theorem scan_wordChars {cs : List Char} (h : ∀ c ∈ cs, isWordChar c) (read : List Char)
    (w : List Char) : (word read).scan (cs ++ w) = (word (cs.reverse ++ read)).scan w := by
  induction cs generalizing read with
  | nil => rfl
  | cons c cs ih =>
    have hstep : (word read).step c = some ([], word (c :: read)) :=
      if_pos (h c List.mem_cons_self)
    rw [List.cons_append, scan_cons_silent hstep,
      ih fun x hx => h x (List.mem_cons_of_mem c hx)]
    simp

end Mode

/-- Whether a token is a word: a longest run of certain characters, which has no end of its
own. -/
def Token.isWord : Token → Bool
  | null => true
  | bool _ => true
  | number _ => true
  | _ => false

theorem isWordChar_of_isDigit {c : Char} (h : c.isDigit) : isWordChar c := by
  simp [isWordChar, Char.isAlphanum, h]

theorem isWordChar_of_mem_exponentText {cs : List Char} (h : ExponentText cs) :
    ∀ c ∈ cs, isWordChar c := by
  cases h with
  | none => simp
  | digits he hs h =>
    have hletters : ∀ c ∈ ['e', 'E'], isWordChar c := by simp [isWordChar]
    have hsigns : ∀ sign ∈ [[], ['+'], ['-']], ∀ c ∈ sign, isWordChar c := by simp [isWordChar]
    simp only [List.forall_mem_cons, List.forall_mem_append]
    exact ⟨hletters _ he, hsigns _ hs, fun c hc => isWordChar_of_isDigit (h.2 c hc)⟩

theorem isWordChar_of_mem_numberText {cs : List Char} (h : NumberText cs) :
    ∀ c ∈ cs, isWordChar c := by
  cases h with
  | mk hs hw hf he =>
    have hsigns : ∀ sign ∈ [[], ['-']], ∀ c ∈ sign, isWordChar c := by simp [isWordChar]
    simp only [List.forall_mem_append]
    refine ⟨hsigns _ hs, fun c hc => isWordChar_of_isDigit (hw.digitRun.2 c hc), ?_,
      isWordChar_of_mem_exponentText he⟩
    cases hf with
    | none => simp
    | digits h =>
      rw [List.forall_mem_cons]
      exact ⟨by decide, fun c hc => isWordChar_of_isDigit (h.2 c hc)⟩

/-- The text of a number starts with a sign or a digit. -/
theorem exists_head_of_numberText {cs : List Char} (h : NumberText cs) :
    ∃ c rest, cs = c :: rest ∧ (c = '-' ∨ c.isDigit) := by
  cases h with
  | @mk sign whole f e hs hw hf he =>
    simp only [List.mem_cons, List.not_mem_nil, or_false] at hs
    rcases hs with rfl | rfl
    · obtain ⟨d, rest, rfl⟩ := List.exists_cons_of_ne_nil hw.digitRun.1
      exact ⟨d, _, rfl, Or.inr (hw.digitRun.2 d List.mem_cons_self)⟩
    · exact ⟨'-', _, rfl, Or.inl rfl⟩

theorem wordToken?_of_numberText {cs : List Char} (h : NumberText cs) :
    wordToken? cs = some (.number cs) := by
  obtain ⟨c, rest, rfl, hc⟩ := exists_head_of_numberText h
  have hne : ∀ l ∈ ['n', 't', 'f'], c ≠ l := by
    rintro l hl rfl
    simp only [List.mem_cons, List.not_mem_nil, or_false] at hl
    rcases hl with rfl | rfl | rfl <;> simp at hc
  simp [wordToken?, hne, isNumber_of_numberText h]

/-- A word is made of the characters of words, and there is at least one. -/
theorem Token.Written.word {t : Token} {cs : List Char} (h : t.Written cs) (ht : t.isWord) :
    cs ≠ [] ∧ (∀ c ∈ cs, isWordChar c) ∧ wordToken? cs = some t := by
  cases h with
  | null => exact ⟨List.cons_ne_nil _ _, by simp [isWordChar], rfl⟩
  | true => exact ⟨List.cons_ne_nil _ _, by simp [isWordChar], rfl⟩
  | false => exact ⟨List.cons_ne_nil _ _, by simp [isWordChar], rfl⟩
  | number h =>
    obtain ⟨c, rest, rfl, -⟩ := exists_head_of_numberText h
    exact ⟨List.cons_ne_nil _ _, isWordChar_of_mem_numberText h, wordToken?_of_numberText h⟩
  | _ => simp [isWord] at ht

/-- Any other token starts with a character that is no part of words. -/
theorem Token.Written.head {t : Token} {cs : List Char} (h : t.Written cs) (ht : ¬t.isWord)
    (w : List Char) : ∀ c ∈ (cs ++ w).head?, ¬isWordChar c := by
  cases h with
  | null => simp [isWord] at ht
  | true => simp [isWord] at ht
  | false => simp [isWord] at ht
  | number _ => simp [isWord] at ht
  | _ => simp [isWordChar]

/-- The scan of a token, which ends a word only if what follows is no part of it. -/
theorem Token.Written.scan {t : Token} {cs : List Char} (h : t.Written cs) {w : List Char}
    (hw : t.isWord → ∀ c ∈ w.head?, ¬isWordChar c) :
    Mode.between.scan (cs ++ w) = (Mode.between.scan w).map (t :: ·) := by
  by_cases ht : t.isWord
  · obtain ⟨hne, hchars, htoken⟩ := h.word ht
    obtain ⟨c, rest, rfl⟩ := List.exists_cons_of_ne_nil hne
    -- a word is read to its end, which is found in what follows
    have hstart := Mode.stepBetween_of_isWordChar (hchars c List.mem_cons_self)
    have hrest : ∀ x ∈ rest, isWordChar x := fun x hx => hchars x (List.mem_cons_of_mem c hx)
    have hread : wordToken? (rest.reverse ++ [c]).reverse = some t := by simpa using htoken
    rw [List.cons_append, Mode.scan_cons_silent hstart, Mode.scan_wordChars hrest,
      Mode.scan_word hread (hw ht)]
  · cases h with
    | null => simp [isWord] at ht
    | true => simp [isWord] at ht
    | false => simp [isWord] at ht
    | number _ => simp [isWord] at ht
    | @string s cs h =>
      have hopen : Mode.between.step '"' = some ([], .string []) := rfl
      have hclose : (Mode.string (s.reverse ++ [])).step '"' = some ([.string s], .between) := by
        simp [Mode.step]
      rw [List.cons_append, List.append_assoc, Mode.scan_cons_silent hopen, Mode.scan_spelling h]
      exact Mode.scan_cons hclose w
    | _ => exact Mode.scan_punctuation rfl w

/-! ### The scan of a layout -/

/-- **No two words stand next to each other.** -/
def Spaced (ts : List Token) : Prop := ts.IsChain fun t u => t.isWord → ¬u.isWord

theorem not_isWordChar_of_blank {c : Char} (hc : c ∈ [' ', '\t', '\n', '\r']) :
    ¬isWordChar c := by
  have hall : ∀ c ∈ [' ', '\t', '\n', '\r'], ¬isWordChar c := by simp [isWordChar]
  exact hall c hc

/-- What is written before a token other than a word ends a word. -/
theorem Layout.head {ts : List Token} {w : List Char} (h : Layout ts w)
    (hts : ∀ t ∈ ts.head?, ¬t.isWord) : ∀ c ∈ w.head?, ¬isWordChar c := by
  cases h with
  | nil hb => exact fun c hc => not_isWordChar_of_blank (hb c (List.mem_of_mem_head? hc))
  | @cons t ts b cs w hb ht hw =>
    cases b with
    | nil => exact ht.head (hts t rfl) w
    | cons x b =>
      intro c hc
      obtain rfl : x = c := Option.some.inj hc
      exact not_isWordChar_of_blank (hb x List.mem_cons_self)

/-- **Tokens are read back from whatever is written for them**, as long as no two words stand
next to each other. -/
theorem tokens?_of_layout {ts : List Token} {w : List Char} (h : Layout ts w) (hts : Spaced ts) :
    tokens? w = some ts := by
  rw [tokens?]
  induction h with
  | @nil b hb =>
    rw [← List.append_nil b, Mode.scan_blanks hb]
    rfl
  | @cons t ts b cs w hb ht hw ih =>
    obtain ⟨hnext, hrest⟩ := List.isChain_cons.mp hts
    rw [Mode.scan_blanks hb, ht.scan fun hword => hw.head fun u hu => hnext u hu hword, ih hrest]
    rfl

end Json
end PartitionRouting
