import PartitionRouting.RoutingError

/-!
# Invocations

A command line names the file of the settings and the file of the snapshot, and then a
command with its own options.  Options are written `--name value` or `--name=value`
and may not be repeated.  A value may not be empty, and one that is an argument of its
own may not look like an option.

## Main definitions

* `Command`, `Invocation` — what a command line asks for.
* `takeOptions` — the options that a list of arguments starts with.
* `Invocation.parse?` — the invocation of a command line.
-/

namespace PartitionRouting

/-- What can be asked for. -/
inductive Command
  /-- The datasets and partitions of a node. -/
  | dump (node : NodeId)
  /-- The replicas of a request. -/
  | route (version : UInt32) (partition : PartitionId) (count requestId : UInt64)
  deriving DecidableEq, Repr

/-- What a command line asks for, and where its inputs are. -/
structure Invocation where
  /-- The file of the settings. -/
  settingsPath : String
  /-- The file of the snapshot. -/
  snapshotPath : String
  /-- What is asked for. -/
  command : Command
  deriving DecidableEq, Repr

/-! ### Options -/

/-- An argument, by its form. -/
inductive Argument
  /-- An option whose value is the next argument. -/
  | detached (name : List Char)
  /-- An option with its value. -/
  | attached (name value : List Char)
  /-- Anything else. -/
  | plain
  deriving DecidableEq, Repr

/-- The form of an argument. -/
def Argument.ofChars : List Char → Argument
  | '-' :: '-' :: rest =>
    match rest.span (· ≠ '=') with
    | (name, []) => .detached name
    | (name, _ :: value) => .attached name value
  | _ => .plain

/-- Whether an argument looks like an option: it starts with a hyphen and goes on. -/
def looksLikeOption : List Char → Bool
  | '-' :: _ :: _ => true
  | _ => false

/-- An option that was given: its name and its value. -/
abbrev GivenOption := String × List Char

/-- The options among `known` that the arguments start with, and the arguments after
them.  An unknown option and one without a proper value are refused. -/
def takeOptions (known : List String) :
    List String → Option (List GivenOption × List String)
  | [] => some ([], [])
  | [a] =>
    match Argument.ofChars a.toList with
    | .detached _ => none
    | .attached name value =>
      if known.contains (String.ofList name) && !value.isEmpty then
        some ([(String.ofList name, value)], [])
      else none
    | .plain => some ([], [a])
  | a :: b :: rest =>
    match Argument.ofChars a.toList with
    | .detached name =>
      if known.contains (String.ofList name) && b ≠ "" && !looksLikeOption b.toList then
        (takeOptions known rest).map fun r => ((String.ofList name, b.toList) :: r.1, r.2)
      else none
    | .attached name value =>
      if known.contains (String.ofList name) && !value.isEmpty then
        (takeOptions known (b :: rest)).map fun r => ((String.ofList name, value) :: r.1, r.2)
      else none
    | .plain => some ([], a :: b :: rest)

/-- The value of an option; nothing if it was not given. -/
def optionValue? (given : List GivenOption) (name : String) : Option (List Char) :=
  (given.find? (·.1 = name)).map (·.2)

/-! ### Numbers -/

/-- The value of a run of decimal digits. -/
def decimal? (cs : List Char) : Option Nat :=
  if !cs.isEmpty && cs.all Char.isDigit then
    some (cs.foldl (fun n c => 10 * n + (c.toNat - '0'.toNat)) 0)
  else none

/-- A decimal number with at most a plus sign. -/
def unsigned? : List Char → Option Nat
  | '+' :: cs => decimal? cs
  | cs => decimal? cs

/-- A decimal number with at most a sign. -/
def signed? : List Char → Option Int
  | '-' :: cs => (decimal? cs).map fun n => -(n : Int)
  | cs => (unsigned? cs).map Int.ofNat

/-- A 32-bit number, read as a signed number that must lie in its range. -/
def word32? (cs : List Char) : Option UInt32 := do
  let n ← signed? cs
  if 0 ≤ n ∧ n < UInt32.size then some n.toNat.toUInt32 else none

/-- A 64-bit number, read as an unsigned number that must lie in its range. -/
def word64? (cs : List Char) : Option UInt64 := do
  let n ← unsigned? cs
  if n < UInt64.size then some n.toUInt64 else none

/-! ### Commands -/

/-- The value of an option that a number must be given for, or may be left out. -/
def numberOption? {α : Type} (parse? : List Char → Option α) (absent : Option α)
    (given : List GivenOption) (name : String) : Option α :=
  match optionValue? given name with
  | none => absent
  | some cs => parse? cs

/-- The options of a command, after which nothing but an end mark may follow. -/
def commandOptions? (known : List String) (arguments : List String) :
    Option (List GivenOption) := do
  let arguments := if arguments.getLast? = some "--" then arguments.dropLast else arguments
  let (given, rest) ← takeOptions known arguments
  if rest.isEmpty && (given.map (·.1)).Nodup then some given else none

/-- The command of a name and its arguments. -/
def Command.parse? (name : String) (arguments : List String) : Option Command :=
  if name = "dump" then do
    let given ← commandOptions? ["node"] arguments
    return .dump (← numberOption? word32? none given "node")
  else if name = "route" then do
    let given ← commandOptions? ["version", "partition", "count", "request-id"] arguments
    return .route (← numberOption? word32? none given "version")
      (← numberOption? word32? none given "partition")
      (← numberOption? word64? (some 1) given "count")
      (← numberOption? word64? (some 0) given "request-id")
  else none

/-- The invocation of a command line; none if the command line is refused. -/
def Invocation.parse? (arguments : List String) : Option Invocation := do
  let (given, rest) ← takeOptions ["config", "assignments"] arguments
  if (given.map (·.1)).Nodup then
    let settingsPath ← optionValue? given "config"
    let snapshotPath ← optionValue? given "assignments"
    match rest with
    | [] => none
    | name :: arguments =>
      return {
        settingsPath := String.ofList settingsPath
        snapshotPath := String.ofList snapshotPath
        command := ← Command.parse? name arguments }
  else none

end PartitionRouting
