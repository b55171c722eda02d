/-
The program itself: fetches what a run depends on, has the run computed,
and writes what it gives. There is no network here, so a request gets no
reply.
-/
import BucketAcl.CommandLine.Program

namespace BucketAcl.CommandLine

/-- The paths that an argument may name: all of it, or what is left
behind the letters or the name of an option. -/
def pathsIn (arg : String) : List String :=
  (List.range (arg.length + 1)).map fun n => .ofList (arg.toList.drop n)

/-- The bytes of a file, if it is one and can be read. -/
def readFile? (path : String) : IO (Option (List UInt8)) := do
  try
    let file ← IO.FS.realPath path
    let metadata ← file.metadata
    if metadata.type matches .file then
      return some (← IO.FS.readBinFile file).toList
    else return none
  catch _ => return none

/-- The time, which the system writes down with every new file. -/
def readClock : IO Time.Instant := do
  let (handle, file) ← IO.FS.createTempFile
  handle.putStr "now"
  handle.flush
  let metadata ← file.metadata
  IO.FS.removeFile file
  return ⟨metadata.modified.sec, false⟩

/-- The values of the environment that a run may look at. -/
def readEnvironment : IO Environment := do
  let names := ["AWS_ACCESS_KEY_ID", "AWS_SECRET_ACCESS_KEY", "CLICOLOR_FORCE", "NO_COLOR"]
  let values ← names.mapM fun name => do
    return (← IO.getEnv name).map fun value => (name, Text.Utf8.bytes value)
  return .ofList (values.filterMap id)

/-- What a run with some arguments depends on. -/
def readSetting (args : List String) : IO Setting := do
  let home := (← IO.getEnv "HOME").getD "/tmp"
  let paths := (home ++ "/.config/s3acl/config.yml") :: args.flatMap pathsIn
  let files ← paths.mapM fun path => do return (path, ← readFile? path)
  return {
    home
    environment := ← readEnvironment
    file? := fun path => (files.lookup path).join
    now := ← readClock }

/-- Runs the program with some arguments, and gives its exit code. -/
def runProgram (args : List String) : IO UInt32 := do
  let setting ← readSetting args
  let (outcome, _) :=
    (run setting (args.map Text.Utf8.bytes)).run { isReached := false, replies := [] }
  (← IO.getStdout).putStr outcome.output
  (← IO.getStderr).putStr outcome.errors
  return outcome.exitCode.toUInt32

end BucketAcl.CommandLine

/-- The program. -/
def main (args : List String) : IO UInt32 := BucketAcl.CommandLine.runProgram args
