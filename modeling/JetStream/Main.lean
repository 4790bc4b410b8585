import JetStream.CommandLine.Run
import Std.Time.DateTime.Timestamp

/-!
# The program

Gathers what a command line finds around it, runs it, and leaves behind what comes of it.
-/

namespace JetStream

open CommandLine (Invocation Outcome Surroundings)

/-- The variables of the environment that count. -/
def environmentVariables : List String :=
  ["JETCTL_SERVER", "NATS_URL", "JETCTL_TIMEOUT", "NOVALIDATE", "JETCTL_NORMALIZE_FILE_CONFIGS",
   "JETCTL_LOG_LEVEL"]

/-- Those variables that are set, with their values. -/
def readEnvironment : IO (NameMap String) := do
  let values ← environmentVariables.mapM fun name => do
    return (← IO.getEnv name).map fun value => (name, value)
  return NameMap.ofList (values.filterMap id)

/-- The paths of the files that are read. -/
def inputPaths (invocation : Invocation) : List String :=
  invocation.settingsPath.toList ++
    match invocation.task with
    | .check flags | .create flags | .save flags _ => flags.configFile.toList
    | .delete _ | .online => []

/-- The paths of the files that are written. -/
def outputPaths (invocation : Invocation) : List String :=
  match invocation.task with
  | .save _ path => [path]
  | _ => []

/-- The number of the error of reading a directory as a file. -/
def directoryError : UInt32 := 21

/-- There is a directory at a path. -/
def hasDirectory (path : String) : IO Bool := do
  try
    let _ ← IO.FS.readBinFile path
    return false
  catch
    | .inappropriateType _ code _ => return code = directoryError
    | _ => return false

/-- An entry that stands for a directory, if there is one. -/
def directoryEntry (parts : List String) : IO (List (String × Text.Bytes)) := do
  let path := "/".intercalate parts
  if !path.isEmpty && (← hasDirectory path) then return [(path ++ "/...", [])] else return []

/-- The entry of a file, if there is one, and otherwise of a directory. -/
def fileEntry (path : String) : IO (List (String × Text.Bytes)) := do
  try
    let bytes ← IO.FS.readBinFile path
    return [(Files.normal path, bytes.toList)]
  catch _ => directoryEntry (Files.components path)

/-- The files at some paths, and the directories that they are in. -/
def readFiles (paths : List String) : IO Files := do
  let directories ← paths.mapM fun path => directoryEntry (Files.components path).dropLast
  let files ← paths.mapM fileEntry
  return ⟨NameMap.ofList (directories.flatten ++ files.flatten)⟩

/-- The time on the calendar. -/
def readClock : IO Instant := do
  let time ← Std.Time.Timestamp.now
  return (Instant.ofNanosecondsSinceEpoch? time.toNanosecondsSinceUnixEpoch.val).getD .epoch

/-- Writes the files among some paths to where they belong. -/
def writeFiles (files : Files) (paths : List String) : IO Unit :=
  paths.forM fun path =>
    match files.read path with
    | .ok bytes => IO.FS.writeBinFile path ⟨bytes.toArray⟩
    | .error _ => return ()

/-- Leaves an outcome behind. -/
def finish (outcome : Outcome) (paths : List String) : IO UInt32 := do
  IO.print outcome.output
  if outcome.exitCode = 0 then writeFiles outcome.files paths
  if let some text := outcome.error then IO.eprintln ("error: " ++ text)
  return outcome.exitCode

/-- Runs the words of a command line. -/
def runWords (words : List String) : IO UInt32 := do
  let (inputs, outputs) := match Invocation.read words with
    | .ok invocation => (inputPaths invocation, outputPaths invocation)
    | .error _ => ([], [])
  let environment ← readEnvironment
  let surroundings : Surroundings :=
    { files := ← readFiles (inputs ++ outputs)
      environment := environment.get?
      now := ← readClock }
  match CommandLine.run surroundings words with
  | some outcome => finish outcome outputs
  | none =>
      IO.eprintln CommandLine.helpText
      return 2

end JetStream

/-- Runs the program. -/
def main (words : List String) : IO UInt32 :=
  JetStream.runWords words
