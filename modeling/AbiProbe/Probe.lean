/-
Probes of the three kinds under one name: each has a program for the
toolchain, reads its output, and then knows facts.
-/
import AbiProbe.Probe.Constants
import AbiProbe.Probe.StructLayout
import AbiProbe.Probe.Typedefs

namespace AbiProbe

/-- What the toolchain does with a program. -/
inductive Mode where
  /-- Compiles it and runs it; the output is what it prints. -/
  | execute
  /-- Expands its directives; the output is the text without them. -/
  | preprocess
  deriving DecidableEq, Repr

inductive ProbeKind where
  | struct
  | constants
  | typedefs
  deriving DecidableEq, Repr

namespace ProbeKind

def name : ProbeKind → String
  | .struct => "struct"
  | .constants => "constants"
  | .typedefs => "typedefs"

end ProbeKind

inductive Probe where
  | struct (p : StructProbe)
  | constants (p : ConstantProbe)
  | typedefs (p : TypedefProbe)

namespace Probe

def kind : Probe → ProbeKind
  | .struct _ => .struct
  | .constants _ => .constants
  | .typedefs _ => .typedefs

/-- The name of a probe in summaries and diagnostics. -/
def label : Probe → String
  | .struct p => p.label
  | .constants p => p.label
  | .typedefs p => p.label

def mode : Probe → Mode
  | .struct _ | .constants _ => .execute
  | .typedefs _ => .preprocess

def source : Probe → String
  | .struct p => p.source
  | .constants p => p.source
  | .typedefs p => p.source

/-- Reads an output; the result comes with the probe that is there
afterwards. -/
def analyse (probe : Probe) (output : String) : Except Error Unit × Probe :=
  match probe with
  | .struct p => (p.analyse output).map id .struct
  | .constants p => (p.analyse output).map id .constants
  | .typedefs p => (.ok (), .typedefs (p.analyse output))

def entries : Probe → List Entry
  | .struct p => p.entries
  | .constants p => p.entries
  | .typedefs p => p.entries

end Probe

namespace Catalog

/-- The probes of a catalog, in the order in which they run. Without headers
there is none for typedefs. -/
def probes (c : Catalog) (platform : Platform) : List Probe :=
  c.structs.map (fun d => .struct (.ofDecl d)) ++ c.groups.map (fun d => .constants (.ofDecl d)) ++
    (if c.typedefHeaders.isEmpty then []
    else [.typedefs (.forPlatform c.typedefHeaders platform)])

end Catalog

end AbiProbe
