/-
What a document gives of a configuration: any of its fields, and any of those of
its patch settings. `filled` has the default in each other field. `StandsIn` says
where the given fields stand among the members of a mapping; of members with
other names, and of the order, it says nothing.
-/
import AbiProbe.Config.Reading
import AbiProbe.Data.Schema

namespace AbiProbe

variable {δ : Type}

namespace PatchConfig

/-- The patch settings that are given. A target may be given as absent. -/
structure Given where
  target : Option (Option String)
  beginMarker : Option String
  endMarker : Option String
  indent : Option String
  deriving DecidableEq, Repr

namespace Given

def filled (g : Given) : PatchConfig where
  target := g.target.getD default.target
  beginMarker := g.beginMarker.getD default.beginMarker
  endMarker := g.endMarker.getD default.endMarker
  indent := g.indent.getD default.indent

/-- Each given setting stands under its name, once, as a value that means it; the
name of a setting that is not given does not stand there. -/
structure StandsIn (g : Given) (v : View δ) (pairs : List (String × δ)) : Prop where
  target : Gives pairs "target" g.target fun d path => v.optionalText? d = some path
  beginMarker : Gives pairs "begin_marker" g.beginMarker fun d s => v.text? d = some s
  endMarker : Gives pairs "end_marker" g.endMarker fun d s => v.text? d = some s
  indent : Gives pairs "indent" g.indent fun d s => v.text? d = some s

end Given

def schema : Schema :=
  .record [("target", .optionalText, some .null), ("begin_marker", .text, some (.text default.beginMarker)),
    ("end_marker", .text, some (.text default.endMarker)), ("indent", .text, some (.text default.indent))]

end PatchConfig

namespace Config

/-- The fields that are given. A compiler and a directory may be given as
absent. -/
structure Given where
  root : Option String
  compiler : Option (Option String)
  compilerVariable : Option String
  extraFlags : Option (List String)
  workDir : Option (Option String)
  sink : Option SinkKind
  flatOutput : Option String
  patch : Option PatchConfig.Given
  deriving DecidableEq, Repr

namespace Given

def filled (g : Given) : Config where
  root := g.root.getD default.root
  compiler := g.compiler.getD default.compiler
  compilerVariable := g.compilerVariable.getD default.compilerVariable
  extraFlags := g.extraFlags.getD default.extraFlags
  workDir := g.workDir.getD default.workDir
  sink := g.sink.getD default.sink
  flatOutput := g.flatOutput.getD default.flatOutput
  patch := (g.patch.map PatchConfig.Given.filled).getD default.patch

/-- Each given field stands under its name, once, as a value that means it; the
name of a field that is not given does not stand there. -/
structure StandsIn (g : Given) (v : View δ) (pairs : List (String × δ)) : Prop where
  root : Gives pairs "prefix" g.root fun d s => v.text? d = some s
  compiler : Gives pairs "compiler" g.compiler fun d s => v.optionalText? d = some s
  compilerVariable : Gives pairs "compiler_env" g.compilerVariable fun d s => v.text? d = some s
  extraFlags : Gives pairs "extra_cflags" g.extraFlags fun d flags =>
    ∃ items, v.items? d = some items ∧ List.Forall₂ (fun item s => v.text? item = some s) items flags
  workDir : Gives pairs "work_dir" g.workDir fun d path => v.optionalText? d = some path
  sink : Gives pairs "sink" g.sink fun d kind => v.choice? d = some kind.name
  flatOutput : Gives pairs "flat_output" g.flatOutput fun d s => v.text? d = some s
  patch : Gives pairs "patch" g.patch fun d patch =>
    ∃ settings, v.members? PatchConfig.memberNames d = some settings ∧ patch.StandsIn v settings

end Given

def schema : Schema :=
  .record [("prefix", .text, some (.text default.root)), ("compiler", .optionalText, some .null),
    ("compiler_env", .text, some (.text default.compilerVariable)), ("extra_cflags", .list .text, some (.list [])),
    ("work_dir", .optionalText, some .null),
    ("sink", .choice [SinkKind.flat.name, SinkKind.embedded.name], some (.text default.sink.name)),
    ("flat_output", .text, some (.text default.flatOutput)), ("patch", PatchConfig.schema, some (.record []))]

end Config

end AbiProbe
