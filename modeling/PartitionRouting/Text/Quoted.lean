import PartitionRouting.Text.Combining

/-!
# Quoted texts

A quoted text stands between double quotes and never leaves its line: the quote,
the backslash and four controls have escapes of their own, and every other
character that a reader could not see, or would see on its neighbour, is written
by its code point.

## Main definitions

* `escape` — the written form of one character.
* `quoted` — a whole text between quotes.
* `commaSeparated`, `quotedList` — lists, and lists of quoted texts in brackets.
-/

namespace PartitionRouting
namespace Text

/-- The lowercase hexadecimal digits of `n`, without leading zeros. -/
def hexDigits (n : Nat) : List Char := Nat.toDigits 16 n

/-- The written form of one character of a quoted text. -/
def escape (c : Char) : List Char :=
  if c = '"' then ['\\', '"']
  else if c = '\\' then ['\\', '\\']
  else if c = '\n' then ['\\', 'n']
  else if c = '\r' then ['\\', 'r']
  else if c = '\t' then ['\\', 't']
  else if c = '\x00' then ['\\', '0']
  else if isUnprintable c || isCombining c then
    ['\\', 'u', '\x7b'] ++ hexDigits c.toNat ++ ['\x7d']
  else [c]

/-- The characters of a quoted text, the quotes included. -/
def quotedChars (cs : List Char) : List Char :=
  '"' :: (cs.flatMap escape ++ ['"'])

/-- The text `s` between double quotes, with its characters escaped where needed. -/
def quoted (s : String) : String := String.ofList (quotedChars s.toList)

/-- The texts of a list with a comma and a space between neighbours. -/
def commaSeparated : List String → String
  | [] => ""
  | [x] => x
  | x :: y :: rest => x ++ ", " ++ commaSeparated (y :: rest)

/-- A list of quoted texts in square brackets. -/
def quotedList (xs : List String) : String :=
  "[" ++ commaSeparated (xs.map quoted) ++ "]"

@[simp] theorem toList_quoted (s : String) : (quoted s).toList = quotedChars s.toList := by
  simp [quoted]

end Text
end PartitionRouting
