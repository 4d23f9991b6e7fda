/-
The sink that fills the generated region of a source file anew: the text
between the first begin marker and the first end marker after it. The file
is read once, when the sink is opened; what lies outside the region is
written back as it was read.
-/
import AbiProbe.Config
import AbiProbe.Sink
import AbiProbe.Sink.Publish
import AbiProbe.Statement
import AbiProbe.Text.Search

namespace AbiProbe

open Text

structure PatchSink where
  path : String
  root : String
  indent : String
  /-- The file up to the begin marker, which it ends with. -/
  head : String
  /-- The file from the end marker on. -/
  tail : String
  comment : String
  statements : List String
  finished : Bool
  deriving DecidableEq, Repr

namespace PatchSink

/-- The two parts of a text that stay: up to and including the first begin
marker, and from the first end marker after that. The error is the marker
that is missing. -/
def splitRegion (contents beginMarker endMarker : String) : Except String (String × String) :=
  match splitAtFirst? beginMarker.toList contents.toList with
  | none => .error beginMarker
  | some (before, after) =>
    match splitAtFirst? endMarker.toList after with
    | none => .error endMarker
    | some (_, rest) =>
      .ok (String.ofList (before ++ beginMarker.toList), String.ofList (endMarker.toList ++ rest))

/-- The comment at the head of a generated region. -/
def generatedBy (platform : Platform) (stamp : Nat) : String :=
  "// Generated by nativeconf on " ++ platform.name ++ " at " ++ toString stamp

/-- Opens a sink on a file that has both markers; `stamp` is the time in seconds. -/
def load (fs : FileSystem) (path : String) (config : PatchConfig) (root : String)
    (platform : Platform) (stamp : Nat) : Except Error PatchSink := do
  let contents ← (fs.readText path).mapError .file
  match splitRegion contents config.beginMarker config.endMarker with
  | .error marker => throw (.missingMarker path marker)
  | .ok (head, tail) =>
    return ⟨path, root, config.indent, head, tail, generatedBy platform stamp, [], false⟩

/-- Opens a sink on a device with faults. -/
def start (faults : Faults) (fs : FileSystem) (path : String) (config : PatchConfig) (root : String)
    (platform : Platform) (stamp : Nat) : Except Error PatchSink :=
  if faults .read then .error (.file .device) else load fs path config root platform stamp

def withComment (s : PatchSink) (comment : String) : PatchSink := { s with comment }

def register (e : Entry) (s : PatchSink) : Except Error Unit × PatchSink :=
  if s.finished then (.error (.config (.alreadyWritten s.path)), s)
  else (.ok (), { s with statements := s.statements ++ [Statement.render s.root e] })

/-- The lines of the generated region. -/
def region (s : PatchSink) : String :=
  String.join ((s.comment :: s.statements).map fun line => s.indent ++ line ++ "\n")

/-- The whole file. The region begins on a line of its own. -/
def render (s : PatchSink) : String :=
  s.head ++ (if s.head.toList.getLast? = some '\n' then "" else "\n") ++ s.region ++ s.tail

/-- Publishes the file, which has to be there still and keeps the mode it
has. A sink that was refused can be finished again. -/
def finish (faults : Faults) (s : PatchSink) (fs : FileSystem) :
    Except Error Unit × PatchSink × FileSystem :=
  if s.finished then (.ok (), s, fs)
  else if faults .inspect then (.error (.file .device), s, fs)
  else match fs.find s.path with
    | .error f => (.error (.file f), s, fs)
    | .ok target =>
      if faults .create then (.error (.file .device), s, fs)
      else match fs.createTemporary (Path.directory s.path) FileSystem.temporaryStem "" with
        | .error f => (.error (.file f), s, fs)
        | .ok (_, place, created) =>
          match created.publish faults place s.render.toUTF8 target.mode s.path with
          | (.error f, fs) => (.error (.file f), s, fs)
          | (.ok (), fs) => (.ok (), { s with finished := true }, fs)

/-- The sink of a run on a device with faults. -/
def sink (faults : Faults) : Sink (PatchSink × FileSystem) where
  name := "embedded"
  register e := fun (s, fs) => let (r, s) := s.register e; (r, s, fs)
  finish := fun (s, fs) => s.finish faults fs

end PatchSink

end AbiProbe
