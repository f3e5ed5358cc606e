import PartitionRouting.Proofs.Json.Values

/-!
# Documents written without blanks

## Main definitions

* `Json.spelled`, `Json.decimal` — how a text and a number are put into a document.
* `Json.Value.compact` — a value written without blanks.

## Main results

* `Json.spells_spelled`, `Json.written_spelled` — a text is spelled by what is written for it.
* `Json.written_compact` — what is written without blanks for a value is written for it.
-/

namespace PartitionRouting
namespace Json

/-! ### Texts -/

/-- The piece that a character is written with: quotes, backslashes and controls by an escape,
any other character as itself. -/
def pieceFor (c : Char) : Piece :=
  if c ∈ ['"', '\\', '\x08', '\x0c', '\n', '\r', '\t'] then .short c
  else if c.toNat < 0x20 then .unit c.toNat.toUInt16
  else .plain c

/-- A text, piece by piece. -/
def spelled (t : String) : Spelling := t.toList.map pieceFor

theorem piecesFor_pieceFor (c : Char) : PiecesFor c [pieceFor c] := by
  rw [pieceFor]
  split
  · exact .short c
  · split
    · next hlow => exact .unit (UInt16.toNat_ofNat_of_lt (Nat.lt_trans hlow (by decide)))
    · exact .plain c

/-- **A text is spelled by its pieces.** -/
theorem spells_spelled (t : String) : (spelled t).Spells t.toList := by
  rw [spelled]
  induction t.toList with
  | nil => exact .nil
  | cons c cs ih => exact .cons (piecesFor_pieceFor c) ih

/-- The letter that stands for a character after a backslash. -/
def letterFor : Char → Char
  | '\x08' => 'b'
  | '\x0c' => 'f'
  | '\n' => 'n'
  | '\r' => 'r'
  | '\t' => 't'
  | c => c

/-- A piece as it is usually written. -/
def Piece.compact : Piece → List Char
  | .plain c => [c]
  | .short c => ['\\', letterFor c]
  | .unit code =>
    let n := code.toNat
    ['\\', 'u', (n / 16 / 16 / 16).digitChar, (n / 16 / 16 % 16).digitChar,
      (n / 16 % 16).digitChar, (n % 16).digitChar]

theorem hexDigit_digitChar {n : ℕ} (h : n < 16) : HexDigit n.digitChar n := by
  have hall : ∀ n < 16, HexDigit n.digitChar n := by
    unfold HexDigit
    decide
  exact hall n h

theorem written_pieceFor (c : Char) : (pieceFor c).Written (pieceFor c).compact := by
  rw [pieceFor]
  split
  · next hc =>
    have hall : ∀ c ∈ ['"', '\\', '\x08', '\x0c', '\n', '\r', '\t'],
      (letterFor c, c) ∈ shortEscapes := by simp [letterFor, shortEscapes]
    exact .short (hall c hc)
  · next hc =>
    split
    · have hlt := c.toNat.toUInt16.toNat_lt
      exact .unit (hexDigit_digitChar (by omega)) (hexDigit_digitChar (by omega))
        (hexDigit_digitChar (by omega)) (hexDigit_digitChar (by omega)) (by omega)
    · next hlow =>
      simp only [List.mem_cons, not_or] at hc
      exact .plain (Nat.not_lt.mp hlow) hc.1 hc.2.1

/-- **A text is written by its pieces.** -/
theorem written_spelled (t : String) : (spelled t).Written ((spelled t).flatMap Piece.compact) := by
  rw [spelled]
  induction t.toList with
  | nil => exact .nil
  | cons c cs ih => exact .cons (written_pieceFor c) ih

/-! ### Numbers -/

/-- A number, by its digits to the base ten. -/
def decimal (n : ℕ) : Value := .number (Nat.toDigits 10 n)

theorem digitRun_toDigits (n : ℕ) : DigitRun (Nat.toDigits 10 n) :=
  ⟨Nat.toDigits_ne_nil, fun _ hc => Nat.isDigit_of_mem_toDigits (by decide) (by decide) hc⟩

/-- The digits of a number start with zero only for zero. -/
theorem head?_toDigits_ne {n : ℕ} (h : n ≠ 0) : (Nat.toDigits 10 n).head? ≠ some '0' := by
  induction n using Nat.strong_induction_on with
  | _ n ih =>
    rw [Nat.toDigits_eq_if (by decide)]
    split
    · next hlt =>
      have hall : ∀ n < 10, n ≠ 0 → [n.digitChar].head? ≠ some '0' := by decide
      exact hall n hlt h
    · next hlt =>
      have hhead := ih (n / 10) (by omega) (by omega)
      rw [List.head?_append_of_ne_nil _ Nat.toDigits_ne_nil]
      exact hhead

theorem wholeText_toDigits (n : ℕ) : WholeText (Nat.toDigits 10 n) := by
  by_cases h : n = 0
  · subst h
    exact .zero
  · have hrun := digitRun_toDigits n
    have hhead := head?_toDigits_ne h
    obtain ⟨c, cs, hcs⟩ := List.exists_cons_of_ne_nil hrun.1
    rw [hcs] at hrun hhead ⊢
    exact .run (by simpa using hhead) hrun

theorem numberText_toDigits (n : ℕ) : NumberText (Nat.toDigits 10 n) := by
  have h : NumberText ([] ++ (Nat.toDigits 10 n ++ ([] ++ []))) :=
    .mk (by decide) (wholeText_toDigits n) .none .none
  simpa using h

/-! ### Values -/

/-- A token as it is usually written. -/
def Token.compact : Token → List Char
  | .openObject => ['\x7b']
  | .closeObject => ['\x7d']
  | .openArray => ['[']
  | .closeArray => [']']
  | .colon => [':']
  | .comma => [',']
  | .null => ['n', 'u', 'l', 'l']
  | .bool true => ['t', 'r', 'u', 'e']
  | .bool false => ['f', 'a', 'l', 's', 'e']
  | .number digits => digits
  | .string s => '"' :: (s.flatMap Piece.compact ++ ['"'])

/-- **A value written without blanks.** -/
def Value.compact (v : Value) : String := String.ofList (v.tokens.flatMap Token.compact)

theorem layout_compact {ts : List Token} (h : ∀ t ∈ ts, t.Written t.compact) :
    Layout ts (ts.flatMap Token.compact) := by
  induction ts with
  | nil => exact .nil (b := []) (by simp [Blanks])
  | cons t ts ih =>
    rw [List.forall_mem_cons] at h
    exact .cons (b := []) (by simp [Blanks]) h.1 (ih h.2)

/-- What is written without blanks for a value is written for it. -/
theorem written_compact {v : Value} (h : ∀ t ∈ v.tokens, t.Written t.compact) :
    v.Written v.compact.toList := by
  rw [Value.compact, String.toList_ofList]
  exact layout_compact h

end Json
end PartitionRouting
