/-
The sink that writes one line for each entry: the published key, an equals
sign between spaces, and the plain text of the value. The lines wait beside
the destination and replace it when the sink is finished.
-/
import AbiProbe.Sink
import AbiProbe.Sink.Publish

namespace AbiProbe

/-- Lines that wait to be published. -/
structure FlatDraft where
  /-- The temporary file. -/
  place : Place
  lines : List String

structure FlatSink where
  path : String
  root : String
  /-- Nothing once a publication was tried. -/
  draft : Option FlatDraft

namespace FlatSink

/-- The line of an entry, without its end. -/
def formatLine (root : String) (e : Entry) : String := e.qualifiedKey root ++ " = " ++ e.value.toText

/-- The mode of a published file. -/
def fileMode : Nat := 0o644

/-- Opens a sink on a destination, whose directory has to be there. -/
def create (fs : FileSystem) (path root : String) : Except Error (FlatSink × FileSystem) :=
  match fs.createTemporary (Path.directory path) FileSystem.temporaryStem "" with
  | .error f => .error (.file f)
  | .ok (_, place, fs) => .ok (⟨path, root, some ⟨place, []⟩⟩, fs)

/-- Opens a sink on a device with faults. -/
def start (faults : Faults) (fs : FileSystem) (path root : String) :
    Except Error (FlatSink × FileSystem) :=
  if faults .create then .error (.file .device) else create fs path root

def register (e : Entry) (s : FlatSink) : Except Error Unit × FlatSink :=
  match s.draft with
  | none => (.error (.config (.alreadyClosed s.path)), s)
  | some d => (.ok (), { s with draft := some { d with lines := d.lines ++ [formatLine s.root e] } })

/-- Registers an entry on a device with faults. -/
def append (faults : Faults) (e : Entry) (s : FlatSink) : Except Error Unit × FlatSink :=
  match s.draft with
  | none => s.register e
  | some d => if faults (.line d.lines.length) then (.error (.file .device), s) else s.register e

/-- The content of a file with some lines. -/
def content (lines : List String) : String := String.join (lines.map (· ++ "\n"))

/-- Publishes the lines. Whether that succeeds or fails, the sink is closed;
a closed sink has nothing left to do. -/
def finish (faults : Faults) (s : FlatSink) (fs : FileSystem) :
    Except Error Unit × FlatSink × FileSystem :=
  match s.draft with
  | none => (.ok (), s, fs)
  | some d =>
    let (result, fs) := fs.publish faults d.place (content d.lines).toUTF8 fileMode s.path
    (result.mapError .file, { s with draft := none }, fs)

/-- What is left of a sink that is given up: no temporary file. -/
def discard (s : FlatSink) (fs : FileSystem) : FileSystem :=
  match s.draft with
  | none => fs
  | some d => fs.erase d.place

/-- The sink of a run on a device with faults. -/
def sink (faults : Faults) : Sink (FlatSink × FileSystem) where
  name := "flat"
  register e := fun (s, fs) => let (r, s) := s.append faults e; (r, s, fs)
  finish := fun (s, fs) => s.finish faults fs

end FlatSink

end AbiProbe
