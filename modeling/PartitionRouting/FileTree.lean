import PartitionRouting.TextFile

/-!
# File trees

A directory holds files and further directories under names.  A path is walked name
by name, from the current directory or, if it starts with a slash, from the top.  An
empty name and a dot stay where they are and two dots go up, but each of them, like
any other name, can only be followed from a directory.

## Main definitions

* `Entry` — a file or a directory.
* `pathNames` — the names on a path.
* `Place` — an entry with the directories above it.
* `Place.step`, `Place.walk` — following one name, and a list of names.
* `Place.read` — what reading the file at a path gives.
-/

namespace PartitionRouting

/-- What a directory holds under a name. -/
inductive Entry
  /-- A file and its bytes. -/
  | file (bytes : ByteArray)
  /-- A directory and the names in it. -/
  | directory (entries : List (String × Entry))

/-- The content of an entry that is read as a file. -/
def Entry.content : Entry → FileContent
  | .file bytes => .ok bytes
  | .directory _ => .error .isDirectory

/-! ### Paths -/

/-- The parts of a list of characters between its slashes. -/
def splitAtSlashes : List Char → List (List Char)
  | [] => [[]]
  | '/' :: cs => [] :: splitAtSlashes cs
  | c :: cs =>
    match splitAtSlashes cs with
    | [] => [[c]]
    | part :: parts => (c :: part) :: parts

/-- The names on a path. -/
def pathNames (cs : List Char) : List String := (splitAtSlashes cs).map String.ofList

/-! ### Places -/

/-- An entry together with the way to it. -/
structure Place where
  /-- The entry itself. -/
  entry : Entry
  /-- The directories above it, the nearest first. -/
  above : List Entry

namespace Place

/-- The most bytes that a name may have. -/
def longestName : Nat := 255

/-- The most bytes that a path may have. -/
def longestPath : Nat := 4095

/-- The place above; above the top there is only the top. -/
def parent (p : Place) : Place :=
  match p.above with
  | [] => p
  | d :: rest => ⟨d, rest⟩

/-- The place that has none above it. -/
def top (p : Place) : Place :=
  match p.above.getLast? with
  | none => p
  | some d => ⟨d, []⟩

/-- The place of an entry inside this one. -/
def child (p : Place) (e : Entry) : Place := ⟨e, p.entry :: p.above⟩

/-- The place that a name leads to. -/
def step (p : Place) (name : String) : Except ReadError Place :=
  match p.entry with
  | .file _ => .error .notDirectory
  | .directory entries =>
    if name = "" ∨ name = "." then .ok p
    else if name = ".." then .ok p.parent
    else if longestName < name.utf8ByteSize then .error .nameTooLong
    else
      match entries.lookup name with
      | none => .error .missing
      | some e => .ok (p.child e)

/-- The place at the end of a list of names. -/
def walk (p : Place) : List String → Except ReadError Place
  | [] => .ok p
  | name :: names =>
    match p.step name with
    | .error cause => .error cause
    | .ok q => q.walk names

/-- The place at the end of a path; the empty path leads nowhere. -/
def find (p : Place) (path : String) : Except ReadError Place :=
  if longestPath < path.utf8ByteSize then .error .nameTooLong
  else
    match path.toList with
    | [] => .error .missing
    | '/' :: cs => p.top.walk (pathNames cs)
    | c :: cs => p.walk (pathNames (c :: cs))

/-- The content of the file at a path. -/
def read (p : Place) (path : String) : FileContent :=
  match p.find path with
  | .error cause => .error cause
  | .ok q => q.entry.content

/-! ### Walks -/

@[simp] theorem walk_nil (p : Place) : p.walk [] = .ok p := rfl

theorem walk_append (p : Place) (xs ys : List String) :
    p.walk (xs ++ ys) = (p.walk xs).bind fun q => q.walk ys := by
  induction xs generalizing p with
  | nil => rfl
  | cons x xs ih =>
    rw [List.cons_append, walk, walk]
    cases p.step x with
    | error _ => rfl
    | ok q => exact ih q

/-- A file is the end of the way. -/
theorem step_file {p : Place} {bytes : ByteArray} (h : p.entry = .file bytes)
    (name : String) : p.step name = .error .notDirectory := by
  rw [step, h]

end Place
end PartitionRouting
