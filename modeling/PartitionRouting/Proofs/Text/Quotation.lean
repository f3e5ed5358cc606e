import Mathlib.Data.List.Basic
import PartitionRouting.Text.Quoted

/-!
# Quoted texts can be read back

Every character of a quoted text is written in one of three ways: as itself, as a backslash
with a letter, or by its code point between braces.  The way is told by the first two
characters, and where it ends too, so no text can pretend to end before it does: the first
quote that no backslash precedes is the last one.  What is written this way can be seen by a
reader, whatever the text was.

## Main definitions

* `SelfDelimiting` — what is written for a value can be told from whatever follows it.
* `Text.Escaped` — the ways to write a character of a quoted text.
* `Text.isVisible` — characters that a reader can see, each in its own place.

## Main results

* `toDigits_injective_of_le` — a number is determined by its digits.
* `Text.selfDelimiting_escape`, `Text.selfDelimiting_quotedChars` — **a quoted text ends at
  its last quote**, and is read back in one way.
* `Text.isVisible_of_mem_quotedChars` — a quoted text holds visible characters only.
-/

namespace PartitionRouting

/-- **What is written for a value can be told from whatever follows it**, and read back in one
way. -/
def SelfDelimiting {α : Type} (written : α → List Char) : Prop :=
  ∀ ⦃a b : α⦄ ⦃l m : List Char⦄, written a ++ l = written b ++ m → a = b ∧ l = m

/-- The first occurrence of a separator splits a list in one way. -/
theorem append_cons_inj_left {α : Type} {a : α} {l l' r r' : List α} (hl : a ∉ l) (hl' : a ∉ l')
    (h : l ++ a :: r = l' ++ a :: r') : l = l' ∧ r = r' := by
  induction l generalizing l' with
  | nil =>
    cases l' with
    | nil => exact ⟨rfl, (List.cons.inj h).2⟩
    | cons b l' =>
      obtain ⟨rfl, -⟩ := List.cons.inj h
      exact absurd List.mem_cons_self hl'
  | cons b l ih =>
    cases l' with
    | nil =>
      obtain ⟨rfl, -⟩ := List.cons.inj h
      exact absurd List.mem_cons_self hl
    | cons b' l' =>
      obtain ⟨rfl, hrest⟩ := List.cons.inj h
      obtain ⟨rfl, hr⟩ := ih (fun hmem => hl (List.mem_cons_of_mem b hmem))
        (fun hmem => hl' (List.mem_cons_of_mem b hmem)) hrest
      exact ⟨rfl, hr⟩

/-! ### Digits -/

section Digits

variable {b : ℕ}

theorem digitChar_inj {m n : ℕ} (hm : m < 16) (hn : n < 16) (h : m.digitChar = n.digitChar) :
    m = n := by
  have hall : ∀ m < 16, ∀ n < 16, m.digitChar = n.digitChar → m = n := by decide
  exact hall m hm n hn h

/-- **A number is determined by its digits.** -/
theorem toDigits_injective_of_le (hb : 1 < b) (hb' : b ≤ 16) :
    Function.Injective (Nat.toDigits b) := by
  intro m
  induction m using Nat.strongRecOn with
  | ind m ih =>
    intro n h
    rw [Nat.toDigits_eq_if hb, Nat.toDigits_eq_if hb (n := n)] at h
    -- one digit is not several
    have hne : ∀ k (x y : Char), [x] ≠ Nat.toDigits b k ++ [y] := by
      intro k x y heq
      have hsplit : [] ++ [x] = Nat.toDigits b k ++ [y] := heq
      exact Nat.toDigits_ne_nil (List.append_inj' hsplit rfl).1.symm
    split at h
    · next hm =>
      split at h
      · next hn => exact digitChar_inj (by omega) (by omega) (List.head_eq_of_cons_eq h)
      · next hn => exact absurd h (hne _ _ _)
    · next hm =>
      split at h
      · next hn => exact absurd h.symm (hne _ _ _)
      · next hn =>
        obtain ⟨hfront, hlast⟩ := List.append_inj' h rfl
        have hm' := Nat.mod_lt m (Nat.zero_lt_of_lt hb)
        have hn' := Nat.mod_lt n (Nat.zero_lt_of_lt hb)
        have hmod : m % b = n % b :=
          digitChar_inj (by omega) (by omega) (List.head_eq_of_cons_eq hlast)
        have hdiv : m / b = n / b := ih (m / b) (Nat.div_lt_self (by omega) hb) hfront
        rw [← Nat.div_add_mod m b, ← Nat.div_add_mod n b, hdiv, hmod]

/-- The digits to a base stand for numbers below the base. -/
theorem exists_digitChar_of_mem_toDigits (hb : 1 < b) {n : ℕ} {c : Char}
    (hc : c ∈ Nat.toDigits b n) : ∃ d < b, c = d.digitChar := by
  induction n using Nat.strongRecOn with
  | ind n ih =>
    rw [Nat.toDigits_eq_if hb] at hc
    split at hc
    · next hn => exact ⟨n, hn, List.mem_singleton.mp hc⟩
    · next hn =>
      rcases List.mem_append.mp hc with hc | hc
      · exact ih (n / b) (Nat.div_lt_self (by omega) hb) hc
      · exact ⟨n % b, Nat.mod_lt n (Nat.zero_lt_of_lt hb), List.mem_singleton.mp hc⟩

end Digits

namespace Text

/-! ### One character -/

/-- Whether a reader can see a character, and see it in its own place. -/
def isVisible (c : Char) : Bool := !(isUnprintable c || isCombining c)

/-- The graphic characters of ASCII are visible. -/
theorem isVisible_of_graphic {c : Char} (hlow : 0x20 ≤ c.toNat) (hhigh : c.toNat ≤ 0x7e) :
    isVisible c = true := by
  have hprintable : isUnprintable c = false := if_pos ⟨hlow, hhigh⟩
  have hseparate : isCombining c = false := if_pos (by omega)
  rw [isVisible, hprintable, hseparate]
  rfl

theorem isVisible_digitChar {d : ℕ} (hd : d < 16) : isVisible d.digitChar = true := by
  have hgraphic : ∀ d < 16, 0x20 ≤ d.digitChar.toNat ∧ d.digitChar.toNat ≤ 0x7e := by decide
  exact isVisible_of_graphic (hgraphic d hd).1 (hgraphic d hd).2

/-- The letters that stand for a character after a backslash. -/
def letters : List (Char × Char) :=
  [('"', '"'), ('\\', '\\'), ('n', '\n'), ('r', '\r'), ('t', '\t'), ('0', '\x00')]

/-- A letter stands for one character, and none of the letters announces a code point. -/
theorem eq_of_mem_letters {k c d : Char} (hc : (k, c) ∈ letters) (hd : (k, d) ∈ letters) :
    c = d := by
  simp only [letters, List.mem_cons, Prod.mk.injEq, List.not_mem_nil, or_false] at hc hd
  rcases hc with ⟨rfl, rfl⟩ | ⟨rfl, rfl⟩ | ⟨rfl, rfl⟩ | ⟨rfl, rfl⟩ | ⟨rfl, rfl⟩ | ⟨rfl, rfl⟩ <;>
    simpa [eq_comm] using hd

theorem ne_u_of_mem_letters {k c : Char} (hc : (k, c) ∈ letters) : k ≠ 'u' := by
  rintro rfl
  simp [letters] at hc

theorem isVisible_of_mem_letters {k c : Char} (hc : (k, c) ∈ letters) : isVisible k = true := by
  simp only [letters, List.mem_cons, Prod.mk.injEq, List.not_mem_nil, or_false] at hc
  rcases hc with ⟨rfl, -⟩ | ⟨rfl, -⟩ | ⟨rfl, -⟩ | ⟨rfl, -⟩ | ⟨rfl, -⟩ | ⟨rfl, -⟩ <;> rfl

/-- **The ways to write a character** of a quoted text. -/
inductive Escaped : Char → List Char → Prop
  /-- A visible character that has no meaning of its own is written as itself. -/
  | plain {c : Char} (hquote : c ≠ '"') (hslash : c ≠ '\\') (hvisible : isVisible c = true) :
    Escaped c [c]
  /-- Some characters are written by a letter. -/
  | letter {k c : Char} (hc : (k, c) ∈ letters) : Escaped c ['\\', k]
  /-- The others are written by their code points. -/
  | code (c : Char) : Escaped c ('\\' :: 'u' :: '\x7b' :: (hexDigits c.toNat ++ ['\x7d']))

theorem escaped_escape (c : Char) : Escaped c (escape c) := by
  unfold escape
  split_ifs with hquote hslash hline hreturn htab hnull hhidden
  · exact .letter (by simp [letters, hquote])
  · exact .letter (by simp [letters, hslash])
  · exact .letter (by simp [letters, hline])
  · exact .letter (by simp [letters, hreturn])
  · exact .letter (by simp [letters, htab])
  · exact .letter (by simp [letters, hnull])
  · exact .code c
  · exact .plain hquote hslash (by rw [isVisible, Bool.eq_false_iff.mpr hhidden]; rfl)

theorem brace_notMem_hexDigits (n : ℕ) : '\x7d' ∉ hexDigits n := by
  intro h
  obtain ⟨d, hd, hbrace⟩ := exists_digitChar_of_mem_toDigits (by decide) h
  have hall : ∀ d < 16, '\x7d' ≠ d.digitChar := by decide
  exact hall d hd hbrace

/-- **A written character ends where it says**, and stands for one character. -/
theorem Escaped.append_inj {c d : Char} {x y l m : List Char} (hx : Escaped c x)
    (hy : Escaped d y) (h : x ++ l = y ++ m) : c = d ∧ l = m := by
  -- the first characters tell the three ways to write a character apart
  cases hx with
  | plain hquote hslash _ =>
    cases hy with
    | plain _ _ _ => exact List.cons.inj h
    | letter _ => exact absurd (List.cons.inj h).1 hslash
    | code d => exact absurd (List.cons.inj h).1 hslash
  | letter hk =>
    cases hy with
    | plain _ hslash _ => exact absurd (List.cons.inj h).1.symm hslash
    | letter hk' =>
      obtain ⟨rfl, hrest⟩ := List.cons.inj (List.cons.inj h).2
      exact ⟨eq_of_mem_letters hk hk', hrest⟩
    | code d => exact absurd (List.cons.inj (List.cons.inj h).2).1 (ne_u_of_mem_letters hk)
  | code c =>
    cases hy with
    | plain _ hslash _ => exact absurd (List.cons.inj h).1.symm hslash
    | letter hk' =>
      exact absurd (List.cons.inj (List.cons.inj h).2).1.symm (ne_u_of_mem_letters hk')
    | code d =>
      simp only [List.cons_append, List.cons.injEq, true_and, List.append_assoc,
        List.nil_append] at h
      obtain ⟨hdigits, hrest⟩ :=
        append_cons_inj_left (brace_notMem_hexDigits _) (brace_notMem_hexDigits _) h
      have hcode := toDigits_injective_of_le (by decide) (by decide) hdigits
      exact ⟨Char.ext (UInt32.toNat_inj.mp hcode), hrest⟩

theorem selfDelimiting_escape : SelfDelimiting escape := fun c d _ _ h =>
  (escaped_escape c).append_inj (escaped_escape d) h

/-- No character is written so that it begins like the end of the text. -/
theorem escape_append_ne (c : Char) (l m : List Char) : escape c ++ l ≠ '"' :: m := by
  intro h
  have hc := escaped_escape c
  generalize escape c = x at hc h
  cases hc with
  | plain hquote _ _ => exact hquote (List.cons.inj h).1
  | letter _ => exact absurd (List.cons.inj h).1 (by decide)
  | code _ => exact absurd (List.cons.inj h).1 (by decide)

theorem isVisible_of_mem_escape {c d : Char} (hd : d ∈ escape c) : isVisible d = true := by
  have hc := escaped_escape c
  generalize escape c = x at hc hd
  cases hc with
  | plain _ _ hvisible => rwa [List.mem_singleton.mp hd]
  | letter hk =>
    simp only [List.mem_cons, List.not_mem_nil, or_false] at hd
    rcases hd with rfl | rfl
    · rfl
    · exact isVisible_of_mem_letters hk
  | code _ =>
    simp only [List.mem_cons, List.mem_append, List.not_mem_nil, or_false] at hd
    rcases hd with rfl | rfl | rfl | hd | rfl
    · rfl
    · rfl
    · rfl
    · obtain ⟨n, hn, rfl⟩ := exists_digitChar_of_mem_toDigits (by decide) hd
      exact isVisible_digitChar hn
    · rfl

/-! ### Quoted texts -/

/-- **A quoted text ends at its last quote**, and is read back in one way. -/
theorem selfDelimiting_quotedChars : SelfDelimiting quotedChars := by
  intro cs ds l m h
  simp only [quotedChars, List.cons_append, List.append_assoc, List.nil_append,
    List.cons.injEq, true_and] at h
  -- the induction is on the characters of both texts, with the quote and all that follows it
  induction cs generalizing ds with
  | nil =>
    cases ds with
    | nil => exact ⟨rfl, (List.cons.inj h).2⟩
    | cons d ds =>
      rw [List.flatMap_cons, List.append_assoc] at h
      exact absurd h.symm (escape_append_ne d _ _)
  | cons c cs ih =>
    rw [List.flatMap_cons, List.append_assoc] at h
    cases ds with
    | nil => exact absurd h (escape_append_ne c _ _)
    | cons d ds =>
      rw [List.flatMap_cons, List.append_assoc] at h
      obtain ⟨rfl, hrest⟩ := selfDelimiting_escape h
      obtain ⟨rfl, hlm⟩ := ih hrest
      exact ⟨rfl, hlm⟩

/-- A quoted text holds visible characters only. -/
theorem isVisible_of_mem_quotedChars {cs : List Char} {d : Char} (hd : d ∈ quotedChars cs) :
    isVisible d = true := by
  simp only [quotedChars, List.mem_cons, List.mem_append, List.mem_flatMap, List.not_mem_nil,
    or_false] at hd
  rcases hd with rfl | ⟨c, -, hd⟩ | rfl
  · rfl
  · exact isVisible_of_mem_escape hd
  · rfl

end Text
end PartitionRouting
