import PartitionRouting.RoutingError

/-!
# Text files

Reading a file gives its bytes or an error, and the bytes are a text if they are
in UTF-8.  An error of the system has a number, which its message repeats.

## Main definitions

* `ReadError` — why a file gives no text, with its message.
* `FileContent` — what reading a file gave.
* `FileContent.text` — its text.
-/

namespace PartitionRouting

/-- Why a file gives no text. -/
inductive ReadError
  /-- There is no such file. -/
  | missing
  /-- It may not be read. -/
  | denied
  /-- Something on the way to it is not a directory. -/
  | notDirectory
  /-- It is a directory. -/
  | isDirectory
  /-- A name on the way to it, or the whole way, is too long. -/
  | nameTooLong
  /-- Its bytes are no text. -/
  | notText
  /-- Anything else. -/
  | other (reason : String)
  deriving DecidableEq, Repr

namespace ReadError

/-- The error that the system numbers so. -/
def ofNumber? : Nat → Option ReadError
  | 2 => some missing
  | 13 => some denied
  | 20 => some notDirectory
  | 21 => some isDirectory
  | 36 => some nameTooLong
  | _ => none

/-- The message of an error. -/
def message : ReadError → String
  | missing => "No such file or directory (os error 2)"
  | denied => "Permission denied (os error 13)"
  | notDirectory => "Not a directory (os error 20)"
  | isDirectory => "Is a directory (os error 21)"
  | nameTooLong => "File name too long (os error 36)"
  | notText => "stream did not contain valid UTF-8"
  | other reason => reason

end ReadError

/-- What reading a file gave: its bytes, or why there are none. -/
abbrev FileContent := Except ReadError ByteArray

namespace FileContent

/-- There is no such file. -/
def missing : FileContent := .error .missing

/-- A file that holds a text. -/
def ofText (text : String) : FileContent := .ok text.toUTF8

/-- The text of a file, or why it has none. -/
def text : FileContent → Except ReadError String
  | .error cause => .error cause
  | .ok bytes =>
    match String.fromUTF8? bytes with
    | some text => .ok text
    | none => .error .notText

end FileContent
end PartitionRouting
