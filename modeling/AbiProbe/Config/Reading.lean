/-
Reading a configuration. A member that is given replaces its default and no
other; members with unknown names are ignored. The rules of `validate` are
checked only after all of the document was read.
-/
import AbiProbe.Config
import AbiProbe.FileSystem
import AbiProbe.Yaml.View

namespace AbiProbe

variable {δ : Type}

namespace SinkKind

def readFrom (v : View δ) (d : δ) : Except Misfit SinkKind := do
  match ofExactName? (← v.choice d) with
  | some kind => return kind
  | none => throw (.expected "flat or embedded")

end SinkKind

namespace PatchConfig

def memberNames : List String := ["target", "begin_marker", "end_marker", "indent"]

def readFrom (v : View δ) (d : δ) : Except Misfit PatchConfig := do
  let members ← v.members memberNames d
  return {
    target := ← optional members "target" default.target v.optionalText
    beginMarker := ← optional members "begin_marker" default.beginMarker v.text
    endMarker := ← optional members "end_marker" default.endMarker v.text
    indent := ← optional members "indent" default.indent v.text }

end PatchConfig

namespace Config

def memberNames : List String :=
  ["prefix", "compiler", "compiler_env", "extra_cflags", "work_dir", "sink", "flat_output", "patch"]

def readFrom (v : View δ) (d : δ) : Except Misfit Config := do
  let members ← v.members memberNames d
  return {
    root := ← optional members "prefix" default.root v.text
    compiler := ← optional members "compiler" default.compiler v.optionalText
    compilerVariable := ← optional members "compiler_env" default.compilerVariable v.text
    extraFlags := ← optional members "extra_cflags" default.extraFlags (v.list v.text)
    workDir := ← optional members "work_dir" default.workDir v.optionalText
    sink := ← optional members "sink" default.sink (SinkKind.readFrom v)
    flatOutput := ← optional members "flat_output" default.flatOutput v.text
    patch := ← optional members "patch" default.patch (PatchConfig.readFrom v) }

/-- A valid configuration from data in some format. -/
def ofData (v : View δ) (d : δ) : Except Error Config := do
  let config ← (readFrom v d).mapError fun m => .yaml m.text
  config.validate
  return config

/-- A valid configuration from the text of a document. -/
def ofYaml (text : String) : Except Error Config := do
  let doc ← (Yaml.read text).mapError .yaml
  ofData doc.view doc.root

/-- A valid configuration from a file. -/
def ofFile (fs : FileSystem) (path : String) : Except Error Config := do
  ofYaml (← (fs.readText path).mapError .file)

end Config

end AbiProbe
