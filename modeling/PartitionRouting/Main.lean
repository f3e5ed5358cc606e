import PartitionRouting.CommandLine.Answer

/-!
# The command line

Reads the files that the command line names and prints the answer to standard output,
or the message of a failure to standard error.
-/

namespace PartitionRouting

/-- The number of a failure; a negative one comes as its complement. -/
def failureNumber (code : UInt32) : Nat := min code.toNat (0 - code).toNat

/-- Why a file could not be read. -/
def readError (e : IO.Error) : ReadError :=
  let code : UInt32 :=
    match e with
    | .noFileOrDirectory _ code _ => code
    | .permissionDenied _ code _ => code
    | .inappropriateType _ code _ => code
    | .invalidArgument _ code _ => code
    | _ => 0
  (ReadError.ofNumber? (failureNumber code)).getD (.other (toString e))

/-- The content of a file. -/
def readContent (path : String) : IO FileContent := do
  try
    return .ok (← IO.FS.readBinFile path)
  catch e =>
    return .error (readError e)

/-- Answers a command line and gives the exit code. -/
def respond (arguments : List String) : IO UInt32 := do
  let answer ← match Invocation.parse? arguments with
    | none => pure (.error .usage)
    | some i => do
      let settingsFile ← readContent i.settingsPath
      let snapshotFile ← readContent i.snapshotPath
      pure (i.answer settingsFile snapshotFile)
  match answer with
  | .ok text =>
    IO.print text
    return 0
  | .error failure =>
    IO.eprint failure.message
    return failure.exitCode.toUInt32

end PartitionRouting

/-- Answers the command line. -/
def main (arguments : List String) : IO UInt32 := PartitionRouting.respond arguments
