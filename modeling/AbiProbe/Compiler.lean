/-
The host's C compiler as a toolchain. A program is written to a file with a
fresh name; the compiler makes a binary beside it or prints its expansion.
Source and binary are removed however the run ends.
-/
import AbiProbe.Config
import AbiProbe.Process
import AbiProbe.Run
import AbiProbe.Sink.Publish

namespace AbiProbe

structure Compiler where
  program : String
  /-- Flags after the strict ones. -/
  flags : List String
  /-- Where sources and binaries are created. -/
  workDir : String
  deriving DecidableEq, Repr

namespace Compiler

/-- The compiler of a configuration, given the environment and the directory
for temporary files. -/
def ofConfig (c : Config) (platform : Platform) (environment : String → Option String)
    (temporary : String) : Compiler :=
  ⟨c.resolveCompiler platform environment, c.compilerFlags platform, c.workDirIn temporary⟩

/-- The command that makes a binary; every warning is an error. -/
def compileCommand (c : Compiler) (source binary : String) : Command :=
  ⟨c.program, ["-xc", "-Wall", "-Werror"] ++ c.flags ++ [source, "-o", binary], false⟩

/-- The command that prints the expansion of a source. -/
def preprocessCommand (c : Compiler) (source : String) : Command :=
  ⟨c.program, ["-E"] ++ c.flags ++ [source], false⟩

/-- The stem of the names of sources and binaries. -/
def stem : String := "nativeconf-"

/-- The file system without a file, if there is one. -/
def without (fs : FileSystem) (path : String) : FileSystem :=
  match fs.removeFile path with
  | .ok fs => fs
  | .error _ => fs

/-- The paths of a source that was written and of the binary to make of it. -/
structure Paths where
  source : String
  binary : String
  deriving DecidableEq, Repr

/-- The paths of a source under some name. -/
def paths (c : Compiler) (name : String) : Paths :=
  ⟨Path.join c.workDir name, Path.join c.workDir (String.ofList (name.toList.dropLast.dropLast))⟩

/-- Writes a source to a fresh file, on a device that may refuse to create it
or to write it. A file that could not be written is removed. -/
def writeSource (c : Compiler) (faults : Faults) (source : String) (fs : FileSystem) :
    Except FileFault Paths × FileSystem :=
  if faults .create then (.error .device, fs)
  else match fs.createTemporary c.workDir stem ".c" with
    | .error f => (.error f, fs)
    | .ok (name, place, created) =>
      -- where all shorter names are taken
      if FileSystem.longestName < name.utf8ByteSize then (.error .nameTooLong, fs)
      else if faults .write then (.error .device, without created (c.paths name).source)
      else (.ok (c.paths name), created.setContent place source.toUTF8)

/-- Compiles a program and runs it; gives what it prints. -/
def execute (c : Compiler) (host : Host) (faults : Faults) (source : String) (fs : FileSystem) :
    Except Error String × FileSystem :=
  match c.writeSource faults source fs with
  | (.error f, fs) => (.error (.file f), fs)
  | (.ok paths, fs) =>
    let (result, fs) :=
      host.runBoth (c.compileCommand paths.source paths.binary) ⟨paths.binary, [], true⟩ fs
    (result, without (without fs paths.binary) paths.source)

/-- Expands the directives of a source; gives the expansion. -/
def preprocess (c : Compiler) (host : Host) (faults : Faults) (source : String) (fs : FileSystem) :
    Except Error String × FileSystem :=
  match c.writeSource faults source fs with
  | (.error f, fs) => (.error (.file f), fs)
  | (.ok paths, fs) =>
    let (result, fs) := host.run (c.preprocessCommand paths.source) fs
    (result, without fs paths.source)

def call (c : Compiler) (host : Host) (faults : Faults) :
    Mode → String → FileSystem → Except Error String × FileSystem
  | .execute => c.execute host faults
  | .preprocess => c.preprocess host faults

/-- The compiler as a toolchain on files, on a device without faults. -/
def toolchain (c : Compiler) (host : Host) : Toolchain FileSystem := ⟨c.call host Faults.none⟩

end Compiler

end AbiProbe
