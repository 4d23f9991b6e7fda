/-
The program at the command line. It reads the files that a run can need,
runs, and writes the one that the run has published. It starts no commands
itself, so a run that has something to probe reports the compiler that it
could not start.
-/
import AbiProbe.CommandLine
import Std.Time.DateTime.Timestamp

namespace AbiProbe.CommandLine

/-- The platform that the program is built for. -/
def buildPlatform : Platform := .x86Linux

def isDirectory (path : String) : IO Bool := do
  try
    let found ← IO.FS.realPath path
    found.isDir
  catch _ => return false

/-- The file system with a directory, if there is one. -/
def withDirectory (fs : FileSystem) (path : String) : IO FileSystem :=
  return if ← isDirectory path then fs.makeDirectories path else fs

/-- The file system with a file and the directory that holds it, as far as
they are there. -/
def withFile (fs : FileSystem) (path : String) : IO FileSystem := do
  let fs ← withDirectory fs (Path.directory path)
  try
    let content ← IO.FS.readBinFile path
    return (fs.writeFile path content).toOption.getD fs
  catch _ => return fs

/-- The values of some environment variables. -/
def readEnvironment (names : List String) : IO (List (String × String)) := do
  let found ← names.mapM fun name => return (name, ← IO.getEnv name)
  return found.filterMap fun (name, value) => value.map (name, ·)

/-- Writes a file that a run has published. -/
def save (before after : FileSystem) (path : String) : IO Unit := do
  match before.readBytes path, after.readBytes path with
  | .ok old, .ok new => if old != new then IO.FS.writeBinFile path new
  | .error _, .ok new => IO.FS.writeBinFile path new
  | _, .error _ => pure ()

/-- Runs the program on the files of the working directory. -/
def perform (arguments : List String) : IO Outcome := do
  let a := (Arguments.ofList arguments).toOption.getD .none
  let fs ← (a.config.toList ++ a.catalog.toList).foldlM withFile FileSystem.empty
  let config := (loadConfig a fs).toOption.getD .default
  let found ← readEnvironment ["TMPDIR", config.compilerVariable]
  let environment (name : String) := found.lookup name
  let path := destination config buildPlatform
  let fs ← withFile fs path
  let fs ← withDirectory fs (config.workDirIn (temporaryDirectory environment))
  let now ← Std.Time.Timestamp.now
  let setting : Setting :=
    ⟨buildPlatform, environment, Host.none, now.toSecondsSinceUnixEpoch.val.toNat⟩
  let outcome := invoke setting arguments fs
  save fs outcome.files path
  return outcome

end AbiProbe.CommandLine

/-- The program. -/
def main (arguments : List String) : IO UInt32 := do
  let outcome ← AbiProbe.CommandLine.perform arguments
  IO.print outcome.stdout
  IO.eprint outcome.stderr
  return outcome.status.toUInt32
