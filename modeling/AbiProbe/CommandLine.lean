/-
The program as a function: from arguments, environment, files and a host to
what it prints, its exit status and the files after it. A run that fails at
any point leaves the destination as it was.
-/
import AbiProbe.Catalog.Builtin
import AbiProbe.Catalog.Reading
import AbiProbe.CommandLine.Arguments
import AbiProbe.CommandLine.Report
import AbiProbe.Compiler
import AbiProbe.Config.Reading
import AbiProbe.Sink.Flat
import AbiProbe.Sink.Patch

namespace AbiProbe

namespace CommandLine

/-- What the program is run in. -/
structure Setting where
  platform : Platform
  environment : String → Option String
  host : Host
  /-- The time, in seconds. -/
  stamp : Nat

structure Outcome where
  status : Nat
  stdout : String
  stderr : String
  files : FileSystem

/-- An error with what was being done when it came up. -/
structure Failure where
  context : String
  error : Error
  deriving DecidableEq, Repr

def usage : String :=
  "Native platform configuration generator\n\n" ++
  "Usage: nativeconf [OPTIONS]\n\n" ++
  "Options:\n" ++
  "  -c, --config <FILE>   Generator configuration (YAML)\n" ++
  "      --catalog <FILE>  Probe catalog replacing the built-in one (YAML)\n" ++
  "  -s, --sink <SINK>     Sink to write to (flat, embedded)\n" ++
  "  -o, --output <FILE>   Output file of the flat sink\n" ++
  "  -t, --target <FILE>   Source file patched by the embedded sink\n" ++
  "      --summary-json    Print the run summary as JSON\n" ++
  "  -v, --verbose         Verbose logging\n" ++
  "  -h, --help            Print help\n" ++
  "  -V, --version         Print version\n"

def version : String := "nativeconf 0.1.0\n"

/-- Adds what was being done to an error. -/
def during {α : Type} (context : String) (r : Except Error α) : Except Failure α :=
  r.mapError fun error => ⟨context, error⟩

/-- The configuration that a file holds, or the default one. -/
def loadConfig (a : Arguments) (fs : FileSystem) : Except Failure Config := do
  let config ← match a.config with
    | none => pure Config.default
    | some path => during ("loading config " ++ path) (Config.ofFile fs path)
  return a.applyTo config

/-- The catalog that a file holds, or the built-in one. -/
def loadCatalog (a : Arguments) (fs : FileSystem) : Except Failure Catalog :=
  match a.catalog with
  | none => .ok Catalog.builtin
  | some path => during ("loading catalog " ++ path) (Catalog.ofFile fs path)

/-- The file that a run with a configuration writes to. -/
def destination (config : Config) (platform : Platform) : String :=
  match config.sink with
  | .flat => config.flatOutput
  | .embedded => config.patchTarget platform

/-- The directory for temporary files. -/
def temporaryDirectory (environment : String → Option String) : String :=
  (environment "TMPDIR").getD "/tmp"

/-- The compiler that a configuration asks for. -/
def Setting.toolchain (s : Setting) (config : Config) : Toolchain FileSystem :=
  (Compiler.ofConfig config s.platform s.environment (temporaryDirectory s.environment)).toolchain s.host

section

variable (toolchain : Toolchain FileSystem) (faults : Faults) (s : Setting) (config : Config)
  (catalog : Catalog)

/-- Probes into a sink on files; `drop` is what becomes of the files when the
sink is given up at the end. -/
def runInto {σ : Type} (k : Sink (σ × FileSystem)) (drop : σ → FileSystem → FileSystem)
    (start : σ × FileSystem) : Except Failure Summary × FileSystem :=
  let (result, sink, fs) := run toolchain.beside k s.platform catalog start
  (during "probe run failed" result, drop sink fs)

/-- Probes into a flat file. -/
def runFlat (fs : FileSystem) : Except Failure Summary × FileSystem :=
  match during ("creating " ++ config.flatOutput)
      (FlatSink.start faults fs config.flatOutput config.root) with
  | .error failure => (.error failure, fs)
  | .ok start => runInto toolchain s catalog (FlatSink.sink faults) FlatSink.discard start

/-- Probes into the generated region of a source file. -/
def runEmbedded (fs : FileSystem) : Except Failure Summary × FileSystem :=
  let target := config.patchTarget s.platform
  match during ("opening " ++ target)
      (PatchSink.start faults fs target config.patch config.root s.platform s.stamp) with
  | .error failure => (.error failure, fs)
  | .ok sink => runInto toolchain s catalog (PatchSink.sink faults) (fun _ fs => fs) (sink, fs)

end

/-- The whole run that the arguments ask for, with the toolchain of a
configuration and the faults of a device. -/
def generate (toolchain : Config → Toolchain FileSystem) (faults : Faults) (s : Setting)
    (a : Arguments) (fs : FileSystem) : Except Failure Summary × FileSystem :=
  match loadConfig a fs with
  | .error failure => (.error failure, fs)
  | .ok config =>
    match loadCatalog a fs with
    | .error failure => (.error failure, fs)
    | .ok catalog =>
      match config.sink with
      | .flat => runFlat (toolchain config) faults s config catalog fs
      | .embedded => runEmbedded (toolchain config) faults s config catalog fs

/-- The program, on some arguments. -/
def invoke (s : Setting) (arguments : List String) (fs : FileSystem) : Outcome :=
  match Arguments.ofList arguments with
  | .error .help => ⟨0, usage, "", fs⟩
  | .error .version => ⟨0, version, "", fs⟩
  | .error (.wrong reason) => ⟨2, "", "error: " ++ reason ++ "\n", fs⟩
  | .ok a =>
    match generate s.toolchain Faults.none s a fs with
    | (.ok summary, fs) => ⟨0, if a.summaryJson then Report.json summary else Report.lines summary, "", fs⟩
    | (.error failure, fs) => ⟨1, "", Report.failure failure.context failure.error, fs⟩

end CommandLine

end AbiProbe
