/-
The configuration of a run: where keys stand, which compiler measures, which
sink receives the entries, and how a source file is patched.
-/
import AbiProbe.Platform
import AbiProbe.Text.Blank

namespace AbiProbe

open Text

/-- The sinks that can be asked for. -/
inductive SinkKind where
  | flat
  | embedded
  deriving DecidableEq, Repr

namespace SinkKind

def name : SinkKind → String
  | .flat => "flat"
  | .embedded => "embedded"

/-- The sink of a name, in any case. -/
def ofName (s : String) : Except Error SinkKind :=
  match [("flat", flat), ("embedded", embedded), ("patch", embedded)].lookup (lowerCase s) with
  | some kind => .ok kind
  | none => .error (.config (.unknownSink s))

/-- The sink of a name exactly as it is written in a document. -/
def ofExactName? (s : String) : Option SinkKind :=
  [("flat", flat), ("embedded", embedded)].lookup s

end SinkKind

/-- How a source file is patched. -/
structure PatchConfig where
  /-- The file; without one, that of the platform. -/
  target : Option String
  /-- The text that opens the generated region. -/
  beginMarker : String
  /-- The text that closes the generated region. -/
  endMarker : String
  /-- What stands before each generated line. -/
  indent : String
  deriving DecidableEq, Repr

namespace PatchConfig

def default : PatchConfig where
  target := none
  beginMarker := "public static void load(RubiniusConfiguration configuration, RubyContext context) \x7b\n"
  endMarker := "    \x7d\n\n\x7d"
  indent := "        "

end PatchConfig

structure Config where
  /-- What stands before every published key. -/
  root : String
  /-- The compiler; without one, that of the platform. -/
  compiler : Option String
  /-- The environment variable that overrides the compiler. -/
  compilerVariable : String
  /-- Compiler flags after those of the platform. -/
  extraFlags : List String
  /-- Where generated sources and programs are; without one, the directory
  for temporary files. -/
  workDir : Option String
  sink : SinkKind
  /-- The file that the flat sink writes. -/
  flatOutput : String
  patch : PatchConfig
  deriving DecidableEq, Repr

namespace Config

def default : Config where
  root := "rbx.platform"
  compiler := none
  compilerVariable := "CC"
  extraFlags := []
  workDir := none
  sink := .flat
  flatOutput := "platform.conf"
  patch := .default

/-- The rules that a configuration has to keep, checked in this order. -/
def validate (c : Config) : Except Error Unit :=
  if c.compilerVariable.isEmpty then .error (.config .emptyCompilerVariable)
  else if c.patch.beginMarker.isEmpty || c.patch.endMarker.isEmpty then
    .error (.config .emptyMarker)
  else .ok ()

/-- The compiler to run: that of the environment unless it is blank, else
the configured one, else the platform's. -/
def resolveCompiler (c : Config) (platform : Platform) (environment : String → Option String) :
    String :=
  match (environment c.compilerVariable).filter fun cc => !isBlankText cc.toList with
  | some cc => cc
  | none => c.compiler.getD platform.defaultCompiler

/-- The platform's flags, then the configured ones. -/
def compilerFlags (c : Config) (platform : Platform) : List String :=
  platform.compilerFlags ++ c.extraFlags

def patchTarget (c : Config) (platform : Platform) : String :=
  c.patch.target.getD platform.defaultTarget

/-- The directory for generated files, given that for temporary files. -/
def workDirIn (c : Config) (temporary : String) : String := c.workDir.getD temporary

end Config

end AbiProbe
